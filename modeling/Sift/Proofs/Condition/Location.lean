import Sift.Condition.Build

/-! Conditions do not depend on where their documents stand.

The place of a document in a larger one is told in the errors of a failed reading, and in
the paths of the conditions. Nothing else looks at it: what is read at one place is read at
any other, with the same result. -/
namespace Sift

open Sift.Path (bind_eq_ok)

/-! ### Results without errors -/

section Results

variable {ε α β : Type}

theorem toOption_bind (x : Except ε α) (f : α → Except ε β) :
    (x >>= f).toOption = x.toOption.bind fun a => (f a).toOption := by
  cases x <;> rfl

theorem toOption_map (f : α → β) (x : Except ε α) : (x.map f).toOption = x.toOption.map f := by
  cases x <;> rfl

theorem toOption_eq_some {x : Except ε α} {a : α} : x.toOption = some a ↔ x = .ok a := by
  cases x <;> simp [Except.toOption]

theorem map_eq_ok {f : α → β} {x : Except ε α} {b : β} :
    f <$> x = .ok b ↔ ∃ a, x = .ok a ∧ f a = b := by
  cases x <;> simp [Functor.map, Except.map]

theorem ok_of_toOption {x y : Except ε α} {a : α} (h : x.toOption = y.toOption) (hx : x = .ok a) :
    y = .ok a := by
  rw [← toOption_eq_some, ← h, hx]
  rfl

/-- Two computations in parts have the same result if their parts do. -/
theorem toOption_bind_congr {x y : Except ε α} {f g : α → Except ε β}
    (hx : x.toOption = y.toOption) (hf : ∀ a, (f a).toOption = (g a).toOption) :
    (x >>= f).toOption = (y >>= g).toOption := by
  rw [toOption_bind, toOption_bind, hx]
  exact congrArg _ (funext hf)

theorem toOption_map_congr {x y : Except ε α} (f : α → β) (h : x.toOption = y.toOption) :
    (x.map f).toOption = (y.map f).toOption := by
  rw [toOption_map, toOption_map, h]

end Results

/-! ### Functions -/

namespace Function

variable (r : Registry)

theorem applyKnown_location (p q : String) (args : Arguments) :
    (applyKnown r p args).toOption = (applyKnown r q args).toOption := by
  unfold applyKnown
  split
  · rfl
  · split <;> rfl

mutual

theorem compile_location (p q : String) (v : Value) :
    (compile r p v).toOption = (compile r q v).toOption := by
  match v with
  | .object members =>
    exact toOption_bind_congr (compileArguments_location p q members) (applyKnown_location r p q)
  | .null | .bool _ | .int _ | .float _ | .text _ | .array _ => rfl

theorem compileArgument_location (p q : String) (v : Value) :
    (compileArgument r p v).toOption = (compileArgument r q v).toOption := by
  match v with
  | .object [(key, inner)] =>
    rw [compileArgument, compileArgument]
    by_cases hkey : key = functionKey
    · rw [if_pos hkey, if_pos hkey]
      exact compile_location p q inner
    · rw [if_neg hkey, if_neg hkey]
      exact toOption_bind_congr (compileArgument_location _ _ inner) fun arg =>
        applyKnown_location r p q _
  | .object [] => exact applyKnown_location r p q []
  | .object (m :: n :: members) =>
    exact toOption_bind_congr (compileArguments_location p q (m :: n :: members))
      (applyKnown_location r p q)
  | .array items => exact toOption_bind_congr (compileItems_location p q 0 0 items) fun _ => rfl
  | .null | .bool _ | .int _ | .float _ | .text _ => rfl

theorem compileArguments_location (p q : String) (members : List (String × Value)) :
    (compileArguments r p members).toOption = (compileArguments r q members).toOption := by
  match members with
  | [] => rfl
  | (key, v) :: rest =>
    refine toOption_bind_congr (compileArgument_location _ _ v) fun arg => ?_
    exact toOption_bind_congr (compileArguments_location p q rest) fun _ => rfl

theorem compileItems_location (p q : String) (i j : Nat) (items : List Value) :
    (compileItems r p i items).toOption = (compileItems r q j items).toOption := by
  match items with
  | [] => rfl
  | v :: rest =>
    refine toOption_bind_congr (compileArgument_location _ _ v) fun item => ?_
    exact toOption_bind_congr (compileItems_location p q (i + 1) (j + 1) rest) fun _ => rfl

end

end Function

namespace Builder

variable (b : Builder) (p q : String)

theorem require_location {α : Type} (cause : BuildCause) (a : Option α) :
    (require p cause a).toOption = (require q cause a).toOption := by
  cases a <;> rfl

theorem bool_location (v : Value) : (bool p v).toOption = (bool q v).toOption :=
  require_location p q _ _

theorem values_location (v : Value) : (values p v).toOption = (values q v).toOption := by
  cases v <;> rfl

theorem texts_location (v : Value) : (texts p v).toOption = (texts q v).toOption := by
  cases v with
  | array items => exact require_location p q _ _
  | _ => rfl

theorem parameter_location (v : Value) :
    (b.parameter p v).toOption = (b.parameter q v).toOption := by
  unfold parameter
  split
  · exact toOption_map_congr _ (Function.compile_location _ p q _)
  · rfl

theorem integer_location (v : Value) : (b.integer p v).toOption = (b.integer q v).toOption := by
  refine toOption_bind_congr (b.parameter_location p q v) fun a => ?_
  cases a with
  | literal v => exact toOption_map_congr _ (require_location p q _ _)
  | function e => rfl

theorem pattern_location (f : Flags) (v : Value) :
    (b.pattern p f v).toOption = (b.pattern q f v).toOption := by
  unfold pattern
  split
  · exact toOption_map_congr _ (Function.compile_location _ p q _)
  · refine toOption_bind_congr (require_location p q _ _) fun text => ?_
    exact toOption_bind_congr (require_location p q _ _) fun _ => rfl

theorem constraint_location (g : Version.Grammar) (f : Flags) (v : Value) :
    (b.constraint p g f v).toOption = (b.constraint q g f v).toOption := by
  unfold constraint
  split
  · exact toOption_map_congr _ (Function.compile_location _ p q _)
  · exact toOption_bind_congr (require_location p q _ _) fun text => rfl

theorem operator_location (f : Flags) (kind : OperatorKind) (v : Value) :
    (b.operator p f kind v).toOption = (b.operator q f kind v).toOption := by
  cases kind with
  | resolves | hasValue | isKind => exact toOption_map_congr _ (bool_location p q v)
  | equals | hasDefault => exact toOption_map_congr _ (b.parameter_location p q v)
  | «matches» => exact toOption_map_congr _ (b.pattern_location p q f v)
  | among | setOf | subset => exact toOption_map_congr _ (values_location p q v)
  | count | bound => exact toOption_map_congr _ (b.integer_location p q v)
  | text | hasSchema => exact toOption_map_congr _ (texts_location p q v)
  | version => exact toOption_map_congr _ (b.constraint_location p q _ f v)

theorem flag_location (members : Members) (key : String) :
    (flag p members key).toOption = (flag q members key).toOption := by
  unfold flag
  split
  · rfl
  · exact require_location p q _ _

theorem flags_location (members : Members) :
    (flags p members).toOption = (flags q members).toOption := by
  have hflag (key : String) : (flag p members key).toOption = (flag q members key).toOption :=
    flag_location p q members key
  refine toOption_bind_congr (hflag _) fun _ => ?_
  refine toOption_bind_congr (hflag _) fun _ => ?_
  refine toOption_bind_congr (hflag _) fun _ => ?_
  refine toOption_bind_congr (hflag _) fun _ => ?_
  refine toOption_bind_congr (hflag _) fun _ => ?_
  exact toOption_bind_congr (hflag _) fun _ => rfl

theorem field_location (v : Value) : (b.field p v).toOption = (b.field q v).toOption := by
  refine toOption_bind_congr (require_location p q _ _) fun source => ?_
  cases Path.Program.compile b.engine source b.regexSizeLimit <;> rfl

theorem self_location (key : String) (s : Subject) (v : Value) :
    (self p key s v).toOption = (self q key s v).toOption := by
  unfold self
  split <;> rfl

theorem subject_location (members : Members) :
    (b.subject p members).toOption = (b.subject q members).toOption := by
  unfold subject
  split
  · exact toOption_map_congr _ (b.field_location p q _)
  · split
    · exact self_location p q _ _ _
    · split
      · exact self_location p q _ _ _
      · split
        · exact toOption_map_congr _ (b.parameter_location p q _)
        · rfl

theorem quantifier_location (members : Members) :
    (quantifier p members).toOption = (quantifier q members).toOption := by
  unfold quantifier
  simp only
  split
  · rfl
  · exact toOption_bind_congr (require_location p q _ _) fun _ => rfl

theorem children_location (c : Combinator) (v : Value) :
    (children p c v).toOption = (children q c v).toOption := by
  unfold children
  split
  · split
    · rfl
    · split <;> rfl
  · split
    · split
      · rfl
      · split <;> rfl
    · rfl

end Builder

namespace Builder

variable (b : Builder)

/-- What makes up a leaf. -/
theorem leaf_eq_ok {p : String} {members : Members} {c : Condition} :
    b.leaf p members = .ok c ↔ ∃ kind key v f subject o,
      operators members = [(kind, key, v)] ∧ flags (p ++ "." ++ key) members = .ok f ∧
      b.subject (p ++ "." ++ key) members = .ok subject ∧
      (kind.needsField = true → ∃ path, subject = some (.field path)) ∧
      b.operator (p ++ "." ++ key) f kind v = .ok o ∧
      c = .leaf (p ++ "." ++ o.name) ⟨o, subject, f⟩ := by
  constructor
  · intro h
    obtain ⟨_, hread, rfl⟩ := map_eq_ok.1 h
    unfold readLeaf at hread
    split at hread
    · rename_i kind key v hone
      obtain ⟨f, hf, hread⟩ := bind_eq_ok.1 hread
      obtain ⟨subject, hsubject, hread⟩ := bind_eq_ok.1 hread
      simp only at hread
      split at hread
      · rename_i hneeds
        split at hread
        · rename_i path
          obtain ⟨o, ho, hread⟩ := bind_eq_ok.1 hread
          cases hread
          exact ⟨kind, key, v, f, _, o, hone, hf, hsubject, fun _ => ⟨path, rfl⟩, ho, rfl⟩
        · cases hread
      · rename_i hneeds
        obtain ⟨o, ho, hread⟩ := bind_eq_ok.1 hread
        cases hread
        exact ⟨kind, key, v, f, _, o, hone, hf, hsubject, fun hn => absurd hn hneeds, ho, rfl⟩
    · cases hread
    · cases hread
  · intro h
    obtain ⟨kind, key, v, f, subject, o, hone, hf, hsubject, hneeds, ho, rfl⟩ := h
    refine map_eq_ok.2 ⟨(_, ⟨o, subject, f⟩), ?_, rfl⟩
    unfold readLeaf
    rw [hone]
    refine bind_eq_ok.2 ⟨f, hf, ?_⟩
    refine bind_eq_ok.2 ⟨subject, hsubject, ?_⟩
    split
    · rename_i hn
      obtain ⟨path, rfl⟩ := hneeds hn
      exact bind_eq_ok.2 ⟨o, ho, rfl⟩
    · exact bind_eq_ok.2 ⟨o, ho, rfl⟩

/-- The same leaf is read at every place. -/
theorem leaf_location {p path : String} (q : String) {members : Members} {l : Leaf}
    (h : b.leaf p members = .ok (.leaf path l)) :
    ∃ path', b.leaf q members = .ok (.leaf path' l) := by
  obtain ⟨kind, key, v, f, subject, o, hone, hf, hsubject, hneeds, ho, hl⟩ := b.leaf_eq_ok.1 h
  cases hl
  refine ⟨_, b.leaf_eq_ok.2 ⟨kind, key, v, f, subject, o, hone, ?_, ?_, hneeds, ?_, rfl⟩⟩
  · exact ok_of_toOption (flags_location _ _ members) hf
  · exact ok_of_toOption (b.subject_location _ _ members) hsubject
  · exact ok_of_toOption (b.operator_location _ _ f kind v) ho

/-- Only leaves come from documents without a combinator. -/
theorem leaf_ok {p : String} {members : Members} {c : Condition} (h : b.leaf p members = .ok c) :
    ∃ path l, c = .leaf path l := by
  obtain ⟨kind, key, v, f, subject, o, -, -, -, -, -, rfl⟩ := b.leaf_eq_ok.1 h
  exact ⟨_, _, rfl⟩

/-! ### Groups -/

/-- The filter of the items of a group, if its document has one. -/
inductive Filter (b : Builder) (levels : Nat) (path : String) (members : Members) :
    Option Condition → Prop where
  | none : member? members "where" = none → Filter b levels path members none
  | some {w c} : member? members "where" = some w →
      b.condition levels (path ++ ".where") w = .ok c → Filter b levels path members (some c)

/-- What a document with a combinator is read as, at the place `path` of the combinator. -/
inductive Grouped (b : Builder) (levels : Nat) (path : String) (members : Members)
    (k : Combinator) (cs : List Condition) : Condition → Prop where
  | group : member? members "field" = none → Grouped b levels path members k cs (.group path k cs)
  | forEach {v field filter q} : member? members "field" = some v → b.field path v = .ok field →
      Filter b levels path members filter → quantifier path members = .ok q →
      Grouped b levels path members k cs (.forEach path k cs field filter q)

theorem condition_eq_ok {levels : Nat} {location : String} {v : Value} {c : Condition} :
    b.condition (levels + 1) location v = .ok c ↔ ∃ members, v = .object members ∧
      ((combinators members = [] ∧ b.leaf location members = .ok c) ∨
        ∃ k w ds cs, combinators members = [(k, w)] ∧
          children (location ++ "." ++ k.name) k w = .ok ds ∧
          readAll (b.condition levels) (location ++ "." ++ k.name) 0 ds = .ok cs ∧
          Grouped b levels (location ++ "." ++ k.name) members k cs c) := by
  constructor
  · intro h
    cases v with
    | object members =>
      refine ⟨members, rfl, ?_⟩
      rw [condition] at h
      split at h
      · rename_i hnone
        exact .inl ⟨hnone, h⟩
      · rename_i k w hone
        obtain ⟨ds, hds, h⟩ := bind_eq_ok.1 h
        obtain ⟨cs, hcs, h⟩ := bind_eq_ok.1 h
        refine .inr ⟨k, w, ds, cs, hone, hds, hcs, ?_⟩
        split at h
        · rename_i hfield
          cases h
          exact .group hfield
        · rename_i v hfield
          obtain ⟨field, hf, h⟩ := bind_eq_ok.1 h
          split at h
          · rename_i hwhere
            obtain ⟨filter, hnone, h⟩ := bind_eq_ok.1 h
            obtain ⟨q, hq, h⟩ := bind_eq_ok.1 h
            cases hnone
            cases h
            exact .forEach hfield hf (.none hwhere) hq
          · rename_i w hwhere
            obtain ⟨filter, hfilter, h⟩ := bind_eq_ok.1 h
            obtain ⟨q, hq, h⟩ := bind_eq_ok.1 h
            obtain ⟨c', hc, rfl⟩ := map_eq_ok.1 hfilter
            cases h
            exact .forEach hfield hf (.some hwhere hc) hq
      · cases h
    | _ => cases h
  · intro h
    obtain ⟨members, rfl, ⟨hnone, hleaf⟩ | ⟨k, w, ds, cs, hone, hds, hcs, hgroup⟩⟩ := h
    · rw [condition, hnone]
      exact hleaf
    · rw [condition, hone]
      refine bind_eq_ok.2 ⟨ds, hds, ?_⟩
      refine bind_eq_ok.2 ⟨cs, hcs, ?_⟩
      cases hgroup with
      | group hfield => rw [hfield]
      | @forEach v field filter q hfield hf hfilter hq =>
        rw [hfield]
        refine bind_eq_ok.2 ⟨field, hf, ?_⟩
        cases hfilter with
        | none hwhere =>
          rw [hwhere]
          exact bind_eq_ok.2 ⟨none, rfl, bind_eq_ok.2 ⟨q, hq, rfl⟩⟩
        | some hwhere hc =>
          rw [hwhere]
          refine bind_eq_ok.2 ⟨_, map_eq_ok.2 ⟨_, hc, rfl⟩, ?_⟩
          exact bind_eq_ok.2 ⟨q, hq, rfl⟩

end Builder

end Sift
