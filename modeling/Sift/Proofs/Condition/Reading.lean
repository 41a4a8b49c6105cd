import Mathlib.Data.List.Forall2
import Sift.Condition.Evaluate
import Sift.Proofs.Condition.Location

/-! What a condition document says, rule by rule.

`Reads` is the meaning of condition documents without conditions: it goes from the document
straight to the answer, and says in each rule in which order the parts are asked, where the
asking stops, and what is left in the context. There is no rule for what is not asked. -/
namespace Sift

/-! ### Outcomes -/

/-- What an evaluation answers in a context, and the context behind it. -/
def Evaluation.outcome {α β : Type} (e : Evaluation α β) (c : Context α) :
    Except ConfigError β × Context α :=
  e.run c

namespace Condition

section Outcome

variable {α β γ : Type} (c : Context α)

theorem outcome_modify (f : Context α → Context α) :
    (modify f : Evaluation α Unit).outcome c = (.ok (), f c) := rfl

theorem outcome_get : (get : Evaluation α (Context α)).outcome c = (.ok c, c) := rfl

theorem outcome_bind (x : Evaluation α β) (f : β → Evaluation α γ) :
    (x >>= f).outcome c =
      match x.outcome c with
      | (.ok a, c') => (f a).outcome c'
      | (.error e, c') => (.error e, c') := by
  show (ExceptT.bindCont f (x c).1) (x c).2 = _
  show _ = match x c with
    | (.ok a, c') => (f a).outcome c'
    | (.error e, c') => (.error e, c')
  rcases x c with ⟨r, c'⟩
  cases r <;> rfl

theorem outcome_map (f : β → γ) (x : Evaluation α β) :
    (f <$> x).outcome c = ((x.outcome c).1.map f, (x.outcome c).2) := by
  rw [← bind_pure_comp, outcome_bind]
  rcases x.outcome c with ⟨r, c'⟩
  cases r <;> rfl

theorem outcome_tryCatch (x : Evaluation α β) (f : ConfigError → Evaluation α β) :
    (tryCatch x f).outcome c =
      match x.outcome c with
      | (.ok a, c') => (.ok a, c')
      | (.error e, c') => (f e).outcome c' := by
  simp only [Evaluation.outcome, tryCatch, tryCatchThe, MonadExceptOf.tryCatch, ExceptT.tryCatch,
    ExceptT.run, ExceptT.mk, bind, StateT.bind]
  rcases x c with ⟨r, c'⟩
  cases r <;> rfl

/-- Asks from left to right until an answer is `stop`, which is no for `allOf` and yes for
`anyOf`. -/
def askSeries : Bool → List (Evaluation α Bool) → Evaluation α Bool
  | false => askAll
  | true => askAny

theorem outcome_askSeries (stop : Bool) (ask : Evaluation α Bool)
    (rest : List (Evaluation α Bool)) :
    (askSeries stop (ask :: rest)).outcome c =
      match ask.outcome c with
      | (.ok answer, c') =>
        if answer = stop then (.ok stop, c') else (askSeries stop rest).outcome c'
      | (.error e, c') => (.error e, c') := by
  cases stop with
  | false =>
    rw [askSeries, askAll, outcome_bind]
    rcases ask.outcome c with ⟨e | _ | _, c'⟩ <;> rfl
  | true =>
    rw [askSeries, askAny, outcome_bind]
    rcases ask.outcome c with ⟨e | _ | _, c'⟩ <;> rfl

theorem outcome_filtered (ask : Evaluation α Bool) :
    (filtered ask).outcome c =
      match ask.outcome c with
      | (.ok answer, c') => (.ok answer, c'.keepReasons c.reasons.length)
      | (.error e, c') => (.error e, c') := by
  rw [filtered, outcome_bind, outcome_get]
  simp only [outcome_bind]
  rcases ask.outcome c with ⟨e | answer, c'⟩ <;> rfl

theorem outcome_overItems (ask : Evaluation α (Option Bool)) (place : String)
    (q : Option Quantifier) (i passed : Nat) (item : α) (rest : List α) :
    (overItems ask place q i passed (item :: rest)).outcome c =
      match ask.outcome (c.enter item s!"{place}[{i}]") with
      | (.ok none, c') => (overItems ask place q (i + 1) passed rest).outcome c'.leave
      | (.ok (some true), c') => (overItems ask place q (i + 1) (passed + 1) rest).outcome c'.leave
      | (.ok (some false), c') =>
        if q.isNone then (.ok false, c'.leave)
        else (overItems ask place q (i + 1) passed rest).outcome c'.leave
      | (.error e, c') => (.error e, c'.leave) := by
  rw [overItems, outcome_bind, outcome_modify]
  simp only [outcome_bind, outcome_tryCatch]
  rcases ask.outcome (c.enter item s!"{place}[{i}]") with ⟨e | _ | _ | _, c'⟩
  · rfl
  · rfl
  · cases q <;> rfl
  · rfl

/-- Evaluations with the same outcomes are the same. -/
theorem evaluation_ext {x y : Evaluation α β} (h : ∀ c, x.outcome c = y.outcome c) : x = y :=
  funext h

end Outcome

end Condition

/-! ### Readings -/

/-- What may be asked of a context. -/
inductive Question (α : Type) where
  | document (v : Value)
  /-- Several documents, one after another until an answer is `stop`. -/
  | series (stop : Bool) (ds : List Value)
  | group (k : Combinator) (ds : List Value)
  /-- Whether an item counts. -/
  | filter (w : Option Value)
  /-- A group of each of the items that count. The items are those from number `i` on, and
  `passed` have passed already. -/
  | items (w : Option Value) (k : Combinator) (ds : List Value) (place : String)
    (q : Option Quantifier) (i passed : Nat) (rest : List α)

open Builder Question

inductive Reads {α : Type} [Viewable α] (b : Builder) :
    Question α → Context α → Except ConfigError Bool → Context α → Prop where
  /-- A document without a combinator is a leaf, and answers as the leaf does. -/
  | leaf {members path l c r c'} : combinators members = [] →
      b.leaf "" members = .ok (.leaf path l) →
      (l.evaluate : Evaluation α Bool).outcome c = (r, c') →
      Reads b (document (.object members)) c r c'
  /-- A document with a combinator and without a field is a group. -/
  | combined {members k v ds c r c'} : combinators members = [(k, v)] →
      member? members "field" = none → children "" k v = .ok ds →
      Reads b (group k ds) c r c' → Reads b (document (.object members)) c r c'
  /-- With a field, the same group is asked of its items. -/
  | forEach {members k v ds w field q c r c'} : combinators members = [(k, v)] →
      member? members "field" = some w → children "" k v = .ok ds → b.field "" w = .ok field →
      quantifier "" members = .ok q →
      Reads b (items (member? members "where") k ds (Condition.itemsPath field) q 0 0
        (Condition.itemsOf field c)) c r c' →
      Reads b (document (.object members)) c r c'
  /-- All have to hold, so the first that does not decides. -/
  | allOf {ds c r c'} : Reads b (series false ds) c r c' → Reads b (group .allOf ds) c r c'
  /-- One has to hold, so the first that does decides. -/
  | anyOf {ds c r c'} : Reads b (series true ds) c r c' → Reads b (group .anyOf ds) c r c'
  | not {d c answer c'} : Reads b (document d) c (.ok answer) c' →
      Reads b (group .not [d]) c (.ok !answer) c'
  | notError {d c e c'} : Reads b (document d) c (.error e) c' →
      Reads b (group .not [d]) c (.error e) c'
  | when {d c r c'} : Reads b (document d) c r c' → Reads b (group .when [d]) c r c'
  | whenNothing {c} : Reads b (group .when []) c (.ok true) c
  -- Several documents: on with the next one as long as nothing decides, not even an error.
  | seriesNil {stop c} : Reads b (series stop []) c (.ok !stop) c
  | seriesNext {stop d ds c answer c' r c''} : Reads b (document d) c (.ok answer) c' →
      answer ≠ stop → Reads b (series stop ds) c' r c'' → Reads b (series stop (d :: ds)) c r c''
  | seriesStop {stop d ds c c'} : Reads b (document d) c (.ok stop) c' →
      Reads b (series stop (d :: ds)) c (.ok stop) c'
  | seriesError {stop d ds c e c'} : Reads b (document d) c (.error e) c' →
      Reads b (series stop (d :: ds)) c (.error e) c'
  -- Filters: the reasons of an answer are forgotten, those of an error are kept.
  | unfiltered {c} : Reads b (filter none) c (.ok true) c
  | filter {w c answer c'} : Reads b (document w) c (.ok answer) c' →
      Reads b (filter (some w)) c (.ok answer) (c'.keepReasons c.reasons.length)
  | filterError {w c e c'} : Reads b (document w) c (.error e) c' →
      Reads b (filter (some w)) c (.error e) c'
  -- Items: each is entered and left again, however the group ends for it.
  | itemsNil {w k ds place q i passed c} : Reads b (items w k ds place q i passed []) c
      (.ok (q.all fun q => q.accepts passed)) c
  | itemsFilterError {w k ds place q i passed item rest c e c'} :
      Reads b (filter w) (c.enter item s!"{place}[{i}]") (.error e) c' →
      Reads b (items w k ds place q i passed (item :: rest)) c (.error e) c'.leave
  | itemsSkip {w k ds place q i passed item rest c c' r c''} :
      Reads b (filter w) (c.enter item s!"{place}[{i}]") (.ok false) c' →
      Reads b (items w k ds place q (i + 1) passed rest) c'.leave r c'' →
      Reads b (items w k ds place q i passed (item :: rest)) c r c''
  | itemsError {w k ds place q i passed item rest c c' e c''} :
      Reads b (filter w) (c.enter item s!"{place}[{i}]") (.ok true) c' →
      Reads b (group k ds) c' (.error e) c'' →
      Reads b (items w k ds place q i passed (item :: rest)) c (.error e) c''.leave
  | itemsPass {w k ds place q i passed item rest c c' c'' r d} :
      Reads b (filter w) (c.enter item s!"{place}[{i}]") (.ok true) c' →
      Reads b (group k ds) c' (.ok true) c'' →
      Reads b (items w k ds place q (i + 1) (passed + 1) rest) c''.leave r d →
      Reads b (items w k ds place q i passed (item :: rest)) c r d
  /-- Without a quantifier one item that fails decides. -/
  | itemsFail {w k ds place i passed item rest c c' c''} :
      Reads b (filter w) (c.enter item s!"{place}[{i}]") (.ok true) c' →
      Reads b (group k ds) c' (.ok false) c'' →
      Reads b (items w k ds place none i passed (item :: rest)) c (.ok false) c''.leave
  /-- With a quantifier it only does not count. -/
  | itemsMiss {w k ds place q i passed item rest c c' c'' r d} :
      Reads b (filter w) (c.enter item s!"{place}[{i}]") (.ok true) c' →
      Reads b (group k ds) c' (.ok false) c'' →
      Reads b (items w k ds place (some q) (i + 1) passed rest) c''.leave r d →
      Reads b (items w k ds place (some q) i passed (item :: rest)) c r d

/-! ### What a question comes down to -/

section Inversion

variable {α : Type} [Viewable α] {b : Builder} {members : Members} {k : Combinator}
  {w : Value} {ds : List Value} {c c' : Context α} {r : Except ConfigError Bool}

theorem reads_leaf {path : String} {l : Leaf} (hnone : combinators members = [])
    (hleaf : b.leaf "" members = .ok (.leaf path l)) :
    Reads b (document (.object members)) c r c' ↔
      (l.evaluate : Evaluation α Bool).outcome c = (r, c') := by
  constructor
  · intro h
    cases h with
    | leaf _ hother hout =>
      rw [hleaf] at hother
      cases hother
      exact hout
    | combined hone =>
      rw [hnone] at hone
      cases hone
    | forEach hone =>
      rw [hnone] at hone
      cases hone
  · exact .leaf hnone hleaf

theorem reads_combined (hone : combinators members = [(k, w)])
    (hfield : member? members "field" = none) (hds : children "" k w = .ok ds) :
    Reads b (document (.object members)) c r c' ↔ Reads b (group k ds) c r c' := by
  constructor
  · intro h
    cases h with
    | leaf hnone =>
      rw [hone] at hnone
      cases hnone
    | combined hother _ hds' hr =>
      rw [hone] at hother
      cases hother
      rw [hds] at hds'
      cases hds'
      exact hr
    | forEach _ hother =>
      rw [hfield] at hother
      cases hother
  · exact .combined hone hfield hds

theorem reads_forEach {v : Value} {field : Path.Program} {q : Option Quantifier}
    (hone : combinators members = [(k, w)]) (hfield : member? members "field" = some v)
    (hds : children "" k w = .ok ds) (hf : b.field "" v = .ok field)
    (hq : quantifier "" members = .ok q) :
    Reads b (document (.object members)) c r c' ↔
      Reads b (items (member? members "where") k ds (Condition.itemsPath field) q 0 0
        (Condition.itemsOf field c)) c r c' := by
  constructor
  · intro h
    cases h with
    | leaf hnone =>
      rw [hone] at hnone
      cases hnone
    | combined _ hother =>
      rw [hfield] at hother
      cases hother
    | forEach hother hfield' hds' hf' hq' hr =>
      rw [hone] at hother
      cases hother
      rw [hfield] at hfield'
      cases hfield'
      rw [hds] at hds'
      cases hds'
      rw [hf] at hf'
      cases hf'
      rw [hq] at hq'
      cases hq'
      exact hr
  · exact .forEach hone hfield hds hf hq

theorem reads_allOf : Reads b (group .allOf ds) c r c' ↔ Reads b (series false ds) c r c' := by
  constructor
  · intro h
    cases h with
    | allOf h => exact h
  · exact .allOf

theorem reads_anyOf : Reads b (group .anyOf ds) c r c' ↔ Reads b (series true ds) c r c' := by
  constructor
  · intro h
    cases h with
    | anyOf h => exact h
  · exact .anyOf

theorem reads_when {d : Value} :
    Reads b (group .when [d]) c r c' ↔ Reads b (document d) c r c' := by
  constructor
  · intro h
    cases h with
    | when h => exact h
  · exact .when

/-- A negation turns the answer around, and leaves an error as it is. -/
theorem reads_not {d : Value} :
    Reads b (group .not [d]) c r c' ↔ Reads b (document d) c (r.map not) c' := by
  cases r with
  | error e =>
    constructor
    · intro h
      cases h with
      | notError h => exact h
    · exact .notError
  | ok answer =>
    constructor
    · intro h
      cases h with
      | not h =>
        show Reads b (document d) c (.ok (!!_)) c'
        rw [Bool.not_not]
        exact h
    · intro h
      have hnot := Reads.not h
      rw [Bool.not_not] at hnot
      exact hnot

end Inversion

end Sift
