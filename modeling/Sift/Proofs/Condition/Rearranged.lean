import Sift.Proofs.Function.Arguments
import Sift.Regex.Engine

/-! The order of the members of a condition does not matter, nor the case of their keys.

A condition and the body of a function are mappings whose members are looked up by their keys. So
documents with the same members in another order, and under keys in another ASCII case, are read as
the same condition (`build_rearranged`); only the errors may differ. What is read as a condition or
as a body in turn follows from the keys above it (`Role.ofKey`), and only such mappings may be
rearranged: values that are written out, and the items of lists, stay as they are. -/
namespace Sift

open Text

/-! ### Rearranged documents -/

/-- What a value is read as. -/
inductive Role where
  | condition
  /-- One condition, or a list of them. -/
  | conditions
  /-- A value that is written out, or a function expression. -/
  | parameter
  | body
  | argument
  /-- A value that is only written out. -/
  | literal
  deriving DecidableEq

/-- What the member under a key of a condition is read as. -/
def Role.ofKey (key : String) : Role :=
  if (Combinator.ofKey? key).isSome then .conditions
  else if sameAscii key "where" then .condition
  else if (OperatorKind.ofKey? key).isSome || sameAscii key "value" then .parameter
  else .literal

mutual

/-- The one value is the other, but for the order of members of conditions and bodies, and the ASCII
case of their keys. Where something differs, no two keys of the mapping are the same, and a body has
one key that the registry knows. -/
inductive Rearranged (r : Function.Registry) : Role → Value → Value → Prop
  | same (role : Role) (v : Value) : Rearranged r role v v
  | condition {members renamed members'} : DistinctKeys members →
      RearrangedMembers r Role.ofKey members renamed → renamed.Perm members' →
      Rearranged r .condition (.object members) (.object members')
  | body {members renamed members'} : DistinctKeys members → Function.KnowsOne r members →
      RearrangedMembers r (fun _ => .argument) members renamed → renamed.Perm members' →
      Rearranged r .body (.object members) (.object members')
  | single {members members'} :
      Rearranged r .condition (.object members) (.object members') →
      Rearranged r .conditions (.object members) (.object members')
  | several {items items'} : RearrangedItems r .condition items items' →
      Rearranged r .conditions (.array items) (.array items')
  | parameter {v w} : Rearranged r .body v w → Rearranged r .parameter
      (.object [(Function.functionKey, v)]) (.object [(Function.functionKey, w)])
  | wrapped {v w} : Rearranged r .body v w → Rearranged r .argument
      (.object [(Function.functionKey, v)]) (.object [(Function.functionKey, w)])
  | bare {members members'} : Function.body? (.object members) = none →
      Rearranged r .body (.object members) (.object members') →
      Rearranged r .argument (.object members) (.object members')
  | list {items items'} : RearrangedItems r .argument items items' →
      Rearranged r .argument (.array items) (.array items')

/-- Members in their order, under keys in another case. -/
inductive RearrangedMembers (r : Function.Registry) :
    (String → Role) → List (String × Value) → List (String × Value) → Prop
  | nil {role} : RearrangedMembers r role [] []
  | cons {role key key' v w members members'} : sameAscii key key' = true →
      Rearranged r (role key) v w → RearrangedMembers r role members members' →
      RearrangedMembers r role ((key, v) :: members) ((key', w) :: members')

inductive RearrangedItems (r : Function.Registry) : Role → List Value → List Value → Prop
  | nil {role} : RearrangedItems r role [] []
  | cons {role v w items items'} : Rearranged r role v w → RearrangedItems r role items items' →
      RearrangedItems r role (v :: items) (w :: items')

end

/-! ### Keys -/

theorem Combinator.ofKey?_congr {a b : String} (h : sameAscii a b = true) :
    ofKey? a = ofKey? b := by
  unfold ofKey?
  refine congrArg (all.find? ·) (funext fun c => ?_)
  rw [sameAscii_comm c.name, sameAscii_comm c.name, sameAscii_congr h]

theorem OperatorKind.ofKey?_congr {a b : String} (h : sameAscii a b = true) :
    ofKey? a = ofKey? b := by
  unfold ofKey?
  refine congrArg (fun p => (catalogue.find? p).map Prod.snd) (funext fun entry => ?_)
  rw [sameAscii_comm entry.1, sameAscii_comm entry.1, sameAscii_congr h]

theorem Role.ofKey_congr {a b : String} (h : sameAscii a b = true) : ofKey a = ofKey b := by
  rw [ofKey, ofKey, Combinator.ofKey?_congr h, OperatorKind.ofKey?_congr h, sameAscii_congr h,
    sameAscii_congr h]

/-- The keys whose values are only written out. -/
def literalKeys : List String :=
  ["field", "type", "name", "caseSensitive", "convert", "unique", "ignoreScheme",
    "includePrerelease", "requireLetters"]

theorem Role.ofKey_literal : ∀ key ∈ literalKeys, ofKey key = .literal := by decide +kernel

theorem Role.ofKey_combinator {key : String} {c : Combinator}
    (h : Combinator.ofKey? key = some c) : ofKey key = .conditions := by
  rw [ofKey, h]
  rfl

theorem Role.ofKey_operator {key : String} {kind : OperatorKind}
    (h : OperatorKind.ofKey? key = some kind) : ofKey key = .parameter := by
  have hcatalogue : ∀ entry ∈ OperatorKind.catalogue, ofKey entry.1 = .parameter := by
    decide +kernel
  obtain ⟨entry, hentry, -⟩ := Option.map_eq_some_iff.1 h
  have hsame := List.find?_some hentry
  rw [← ofKey_congr hsame]
  exact hcatalogue entry (List.mem_of_find?_eq_some hentry)

namespace Builder

variable {b : Builder}

/-! ### Values that are read alike -/

/-- Two values are read alike, in the role that they have. -/
def ReadAlike (b : Builder) : Role → Value → Value → Prop
  | .condition, v, w => ∀ levels p,
      (b.condition levels p v).toOption = (b.condition levels p w).toOption
  | .conditions, v, w => ∀ levels p c,
      (children p c v >>= readAll (b.condition levels) p 0).toOption =
        (children p c w >>= readAll (b.condition levels) p 0).toOption
  | .parameter, v, w => v = w ∨ ∃ body body', v = .object [(Function.functionKey, body)] ∧
      w = .object [(Function.functionKey, body')] ∧ Function.SameBody b.functions body body'
  | .body, v, w => Function.SameBody b.functions v w
  | .argument, v, w => Function.SameArgument b.functions v w
  | .literal, v, w => v = w

theorem readAlike_same (role : Role) (v : Value) : b.ReadAlike role v v := by
  cases role with
  | condition => exact fun _ _ => rfl
  | conditions => exact fun _ _ _ => rfl
  | parameter => exact .inl rfl
  | body => exact fun p q => Function.compile_location _ p q v
  | argument => exact fun p q => Function.compileArgument_location _ p q v
  | literal => rfl

section Parameters

variable {v w : Value} (h : b.ReadAlike .parameter v w)
include h

theorem parameter_alike (p q : String) :
    (b.parameter p v).toOption = (b.parameter q w).toOption := by
  obtain rfl | ⟨body, body', rfl, rfl, hbody⟩ := h
  · exact b.parameter_location p q v
  · exact toOption_map_congr _ (hbody p q)

theorem pattern_alike (p q : String) (f : Flags) :
    (b.pattern p f v).toOption = (b.pattern q f w).toOption := by
  obtain rfl | ⟨body, body', rfl, rfl, hbody⟩ := h
  · exact b.pattern_location p q f v
  · exact toOption_map_congr _ (hbody p q)

theorem constraint_alike (p q : String) (g : Version.Grammar) (f : Flags) :
    (b.constraint p g f v).toOption = (b.constraint q g f w).toOption := by
  obtain rfl | ⟨body, body', rfl, rfl, hbody⟩ := h
  · exact b.constraint_location p q g f v
  · exact toOption_map_congr _ (hbody p q)

theorem long?_alike : Coerce.long? v true = Coerce.long? w true := by
  obtain rfl | ⟨body, body', rfl, rfl, -⟩ := h <;> rfl

theorem integer_alike (p q : String) : (b.integer p v).toOption = (b.integer q w).toOption := by
  refine toOption_bind_congr (parameter_alike h p q) fun a => ?_
  cases a with
  | literal v => exact toOption_map_congr _ (require_location p q _ _)
  | function e => rfl

/-- A function expression is no value for the operators that take none. -/
theorem operator_alike (p q : String) (f : Flags) (kind : OperatorKind) :
    (b.operator p f kind v).toOption = (b.operator q f kind w).toOption := by
  cases kind with
  | equals | hasDefault => exact toOption_map_congr _ (parameter_alike h p q)
  | «matches» => exact toOption_map_congr _ (pattern_alike h p q f)
  | version => exact toOption_map_congr _ (constraint_alike h p q _ f)
  | count | bound => exact toOption_map_congr _ (integer_alike h p q)
  | _ =>
    obtain rfl | ⟨body, body', rfl, rfl, -⟩ := h
    · exact b.operator_location p q f _ v
    · rfl

end Parameters

/-! ### Members that are looked up -/

/-- Members of a condition, each read like its partner. -/
def AlikeMembers (b : Builder) (members partners : Members) : Prop :=
  Matched (fun key => b.ReadAlike (Role.ofKey key)) members partners

theorem member?_eq_first? {members : Members} (h : DistinctKeys members) (key : String) :
    member? members key = first? members key := by
  unfold member?
  cases hexact : Value.member? members key with
  | none => rfl
  | some v =>
    obtain ⟨⟨k, w⟩, hfind, rfl⟩ := Option.map_eq_some_iff.1 hexact
    have hkey := List.find?_some hfind
    obtain rfl := beq_iff_eq.1 hkey
    exact ((first?_eq_some_iff h).2 ⟨k, List.mem_of_find?_eq_some hfind, sameAscii_refl k⟩).symm

section Members

variable {members partners : Members} (h : b.AlikeMembers members partners)
include h

theorem member?_alike (key : String) : Option.Rel (b.ReadAlike (Role.ofKey key))
    (member? members key) (member? partners key) := by
  rw [member?_eq_first? h.distinct, member?_eq_first? h.distinct_partners]
  refine rel_imp (h.first? key) ?_
  rintro v w ⟨k, hkey, hvw⟩
  rwa [← Role.ofKey_congr hkey]

theorem member?_literal {key : String} (hkey : key ∈ literalKeys) :
    member? members key = member? partners key := by
  have halike := member?_alike h key
  rw [Role.ofKey_literal key hkey] at halike
  exact rel_eq halike

theorem flags_alike (p q : String) : (flags p members).toOption = (flags q partners).toOption := by
  have hflag (key : String) (hkey : key ∈ literalKeys) :
      flag p members key = flag p partners key := by
    rw [flag, flag, member?_literal h hkey]
  have hsame : flags p members = flags p partners := by
    rw [flags, flags, hflag "caseSensitive" (by decide), hflag "convert" (by decide),
      hflag "unique" (by decide), hflag "ignoreScheme" (by decide),
      hflag "includePrerelease" (by decide), hflag "requireLetters" (by decide)]
  rw [hsame, flags_location p q]

theorem subject_alike (p q : String) :
    (b.subject p members).toOption = (b.subject q partners).toOption := by
  rw [subject_location b p q]
  unfold subject
  rw [member?_literal h (show "field" ∈ literalKeys by decide),
    member?_literal h (show "type" ∈ literalKeys by decide),
    member?_literal h (show "name" ∈ literalKeys by decide)]
  have hvalue := member?_alike h "value"
  rw [show Role.ofKey "value" = .parameter by decide +kernel] at hvalue
  split
  · rfl
  · split
    · rfl
    · split
      · rfl
      · generalize member? members "value" = v, member? partners "value" = w at hvalue
        cases hvalue with
        | none => rfl
        | some hvw => exact toOption_map_congr _ (parameter_alike hvw q q)

theorem quantifier_alike (p : String) :
    (quantifier p members).toOption = (quantifier p partners).toOption := by
  have hrole : ∀ entry ∈ quantifiers, Role.ofKey entry.1 = .parameter := by decide +kernel
  have hfound : Option.Rel
      (fun x y => x.1 = y.1 ∧ x.2.1 = y.2.1 ∧ Coerce.long? x.2.2 true = Coerce.long? y.2.2 true)
      (quantifiers.findSome? fun e => (member? members e.1).map fun v => (e.1, e.2, v))
      (quantifiers.findSome? fun e => (member? partners e.1).map fun v => (e.1, e.2, v)) := by
    refine rel_findSome? fun entry hentry => rel_map (member?_alike h entry.1) fun v w hvw => ?_
    rw [hrole entry hentry] at hvw
    exact ⟨rfl, rfl, long?_alike hvw⟩
  unfold quantifier
  dsimp only
  generalize (quantifiers.findSome? fun e => (member? members e.1).map fun v => (e.1, e.2, v)) = x
    at hfound ⊢
  generalize (quantifiers.findSome? fun e => (member? partners e.1).map fun v => (e.1, e.2, v)) = y
    at hfound ⊢
  cases hfound with
  | none => rfl
  | @some x y hxy =>
    obtain ⟨key, make, v⟩ := x
    obtain ⟨key', make', w⟩ := y
    obtain ⟨hkey, hmake, hlong⟩ := hxy
    dsimp only at hkey hmake hlong ⊢
    rw [hkey, hmake, hlong]

theorem operators_paired : Paired (fun x y => x.1 = y.1 ∧ b.ReadAlike .parameter x.2.2 y.2.2)
    (operators members) (operators partners) := by
  refine h.paired.filterMap ?_
  rintro ⟨key, v⟩ ⟨key', w⟩ ⟨hsame, hvw⟩
  have hkind := OperatorKind.ofKey?_congr hsame
  dsimp only at hkind ⊢
  rw [← hkind]
  cases hkey : OperatorKind.ofKey? key with
  | none => exact .none
  | some kind =>
    rw [Role.ofKey_operator hkey] at hvw
    exact .some ⟨rfl, hvw⟩

theorem combinators_paired : Paired (fun x y => x.1 = y.1 ∧ b.ReadAlike .conditions x.2 y.2)
    (combinators members) (combinators partners) := by
  refine h.paired.filterMap ?_
  rintro ⟨key, v⟩ ⟨key', w⟩ ⟨hsame, hvw⟩
  have hcombinator := Combinator.ofKey?_congr hsame
  dsimp only at hcombinator ⊢
  rw [← hcombinator]
  cases hkey : Combinator.ofKey? key with
  | none => exact .none
  | some c =>
    rw [Role.ofKey_combinator hkey] at hvw
    exact .some ⟨rfl, hvw⟩

theorem readLeaf_alike (p : String) :
    (b.readLeaf p members).toOption = (b.readLeaf p partners).toOption := by
  unfold readLeaf
  obtain ⟨hnone, hnone'⟩ | ⟨⟨kind, key, v⟩, ⟨kind', key', w⟩, hone, hone', hkind, hvw⟩ |
    ⟨⟨_, _, _, hmany⟩, _, _, _, hmany'⟩ := (operators_paired h).few
  · rw [hnone, hnone']
  · obtain rfl : kind = kind' := hkind
    rw [hone, hone']
    refine toOption_bind_congr (flags_alike h _ _) fun f => ?_
    refine toOption_bind_congr (subject_alike h _ _) fun subject => ?_
    have hoperator := operator_alike hvw (p ++ "." ++ key) (p ++ "." ++ key') f kind
    dsimp only
    split
    · split
      · exact toOption_bind_congr hoperator fun _ => rfl
      · rfl
    · exact toOption_bind_congr hoperator fun _ => rfl
  · rw [hmany, hmany']

theorem leaf_alike (p : String) : (b.leaf p members).toOption = (b.leaf p partners).toOption := by
  rw [leaf, leaf, toOption_map, toOption_map, readLeaf_alike h p]

theorem condition_alike : b.ReadAlike .condition (.object members) (.object partners) := by
  intro levels p
  cases levels with
  | zero => rfl
  | succ levels =>
    rw [condition, condition]
    obtain ⟨hnone, hnone'⟩ | ⟨⟨c, v⟩, ⟨c', w⟩, hone, hone', hc, hvw⟩ |
      ⟨⟨_, _, _, hmany⟩, _, _, _, hmany'⟩ := (combinators_paired h).few
    · rw [hnone, hnone']
      exact leaf_alike h p
    · obtain rfl : c = c' := hc
      rw [hone, hone']
      dsimp only
      rw [← bind_assoc, ← bind_assoc]
      refine toOption_bind_congr (hvw levels _ c) fun cs => ?_
      rw [member?_literal h (show "field" ∈ literalKeys by decide)]
      split
      · rfl
      · refine toOption_bind_congr rfl fun field => ?_
        have hfilter := member?_alike h "where"
        rw [show Role.ofKey "where" = .condition by decide +kernel] at hfilter
        have hquantifier := quantifier_alike h (p ++ "." ++ c.name)
        have hrest (filter : Option Condition) := toOption_bind_congr hquantifier fun q =>
          (rfl : (Except.ok (.forEach (p ++ "." ++ c.name) c cs field filter q) :
            Except BuildError Condition).toOption = _)
        revert hfilter
        generalize member? members "where" = v, member? partners "where" = w
        intro hfilter
        cases hfilter with
        | none => exact toOption_bind_congr rfl hrest
        | some hvw => exact toOption_bind_congr (toOption_map_congr _ (hvw levels _)) hrest
    · rw [hmany, hmany']

end Members

/-! ### Documents of children -/

theorem children_object (p : String) (c : Combinator) (members : Members) :
    children p c (.object members) = if c.isUnary then .ok [.object members]
      else .error (fault p .notConditions) := by
  cases c <;> rfl

theorem children_array (p : String) (c : Combinator) (items : List Value) :
    children p c (.array items) = if c.isUnary = false ∨ items.length = 1 then .ok items
      else .error (fault p .notOneCondition) := by
  cases c <;> simp [children, Combinator.isUnary]

theorem readAll_alike {items partners : List Value}
    (h : List.Forall₂ (b.ReadAlike .condition) items partners) (levels : Nat) (p : String)
    (i : Nat) : (readAll (b.condition levels) p i items).toOption =
      (readAll (b.condition levels) p i partners).toOption := by
  induction h generalizing i with
  | nil => rfl
  | cons hvw _ ih =>
    refine toOption_bind_congr (hvw levels _) fun _ => ?_
    exact toOption_bind_congr (ih (i + 1)) fun _ => rfl

theorem conditions_single {members partners : Members}
    (h : b.ReadAlike .condition (.object members) (.object partners)) :
    b.ReadAlike .conditions (.object members) (.object partners) := by
  intro levels p c
  rw [children_object, children_object]
  split
  · exact readAll_alike (.cons h .nil) levels p 0
  · rfl

theorem conditions_several {items partners : List Value}
    (h : List.Forall₂ (b.ReadAlike .condition) items partners) :
    b.ReadAlike .conditions (.array items) (.array partners) := by
  intro levels p c
  rw [children_array, children_array, h.length_eq]
  split
  · exact readAll_alike h levels p 0
  · rfl

end Builder

/-! ### Documents -/

theorem RearrangedMembers.keys {r : Function.Registry} {role : String → Role}
    {members members' : List (String × Value)} (h : RearrangedMembers r role members members') :
    List.Forall₂ (UnderSameKey fun _ _ _ => True) members members' := by
  match h with
  | .nil => exact .nil
  | .cons hkey _ hmembers => exact .cons ⟨hkey, trivial⟩ hmembers.keys

theorem Rearranged.body?_eq_none {r : Function.Registry}
    {members members' : List (String × Value)}
    (h : Rearranged r .body (.object members) (.object members'))
    (hbare : Function.body? (.object members) = none) :
    Function.body? (.object members') = none := by
  cases h with
  | same => exact hbare
  | body _ _ hmembers hperm => exact Function.body?_partners ⟨_, hmembers.keys, hperm⟩ hbare

mutual

theorem Rearranged.readAlike {b : Builder} (hb : b.functions.LooksUp) {role : Role} {v w : Value}
    (h : Rearranged b.functions role v w) : b.ReadAlike role v w := by
  match h with
  | .same role v => exact Builder.readAlike_same role v
  | .condition hdistinct hmembers hperm =>
    exact Builder.condition_alike ⟨hdistinct, _, hmembers.readAlike hb, hperm⟩
  | .body hdistinct hone hmembers hperm =>
    exact Function.compile_matched hb ⟨hdistinct, _, hmembers.readAlike hb, hperm⟩ hone
  | .single hmembers => exact Builder.conditions_single (hmembers.readAlike hb)
  | .several hitems => exact Builder.conditions_several (hitems.readAlike hb)
  | .parameter hbody => exact .inr ⟨_, _, rfl, rfl, hbody.readAlike hb⟩
  | .wrapped hbody =>
    intro p q
    rw [Function.compileArgument_wrapped, Function.compileArgument_wrapped]
    exact hbody.readAlike hb p q
  | .bare hbare hbody =>
    intro p q
    rw [Function.compileArgument_object hbare,
      Function.compileArgument_object (hbody.body?_eq_none hbare)]
    exact hbody.readAlike hb p q
  | .list hitems => exact Function.sameArgument_items (hitems.readAlike hb)

theorem RearrangedMembers.readAlike {b : Builder} (hb : b.functions.LooksUp)
    {role : String → Role} {members members' : List (String × Value)}
    (h : RearrangedMembers b.functions role members members') :
    List.Forall₂ (UnderSameKey fun key => b.ReadAlike (role key)) members members' := by
  match h with
  | .nil => exact .nil
  | .cons hkey hvalue hmembers => exact .cons ⟨hkey, hvalue.readAlike hb⟩ (hmembers.readAlike hb)

theorem RearrangedItems.readAlike {b : Builder} (hb : b.functions.LooksUp) {role : Role}
    {items items' : List Value}
    (h : RearrangedItems b.functions role items items') :
    List.Forall₂ (b.ReadAlike role) items items' := by
  match h with
  | .nil => exact .nil
  | .cons hvalue hitems => exact .cons (hvalue.readAlike hb) (hitems.readAlike hb)

end

/-- **The order of members does not matter when a condition is built, nor the case of keys.**
Documents that differ in nothing but the order of the members of conditions and function bodies, and
in the ASCII case of their keys, are built as the same condition or not at all: a tree of the same
shape with the same places in the document, which gives every target the same answer for the same
reasons. In the mappings that differ no two keys are the same up to ASCII case, and each body has
just one key that the registry knows; functions that the host brings along see of their arguments
what is found under keys. -/
theorem build_rearranged {b : Builder} (hb : b.functions.LooksUp) {document document' : Value}
    (h : Rearranged b.functions .condition document document') (c : Condition) :
    b.build document = .ok c ↔ b.build document' = .ok c := by
  rw [← toOption_eq_some, ← toOption_eq_some, Builder.build, Builder.build,
    h.readAlike hb b.maxDepth ""]

/-- A computed value and a negated leaf in a group, with everything swapped. -/
theorem build_rearranged_nested :
    let b := Builder.of Regex.engine {}
    let body : Value := .object
      [("substring", .object [("configuration", .text "alias")]), ("length", .int 3)]
    let body' : Value := .object
      [("LENGTH", .int 3), ("SubString", .object [("Configuration", .text "alias")])]
    let document : Value := .object [("note", .text "names"), ("anyOf", .array [
      .object [("value", .object [("$", body)]), ("equals", .text "abc")],
      .object [("not", .object [("name", .text "."), ("startsWith", .text "a")])]])]
    let document' : Value := .object [("AnyOf", .array [
      .object [("Equals", .text "abc"), ("VALUE", .object [("$", body')])],
      .object [("NOT", .object [("StartsWith", .text "a"), ("Name", .text ".")])]]),
      ("Note", .text "names")]
    Rearranged b.functions .condition document document' ∧
      ∃ c, b.build document = .ok c ∧ (b.build document = .ok c ↔ b.build document' = .ok c) := by
  intro b body body' document document'
  have hinner : Rearranged b.functions .argument (.object [("configuration", .text "alias")])
      (.object [("Configuration", .text "alias")]) :=
    .bare rfl (.body (by decide +kernel) (by decide +kernel)
      (.cons (by decide +kernel) (.same _ _) .nil) (.refl _))
  have hbody : Rearranged b.functions .body body body' :=
    .body (by decide +kernel) (by decide +kernel)
      (.cons (by decide +kernel) hinner (.cons (by decide +kernel) (.same _ _) .nil))
      (.swap _ _ _)
  have hparameter : Rearranged b.functions (Role.ofKey "value") (.object [("$", body)])
      (.object [("$", body')]) := by
    rw [show Role.ofKey "value" = .parameter by decide +kernel]
    exact .parameter hbody
  have hcomputed : Rearranged b.functions .condition
      (.object [("value", .object [("$", body)]), ("equals", .text "abc")])
      (.object [("Equals", .text "abc"), ("VALUE", .object [("$", body')])]) :=
    .condition (by decide +kernel)
      (.cons (by decide +kernel) hparameter (.cons (by decide +kernel) (.same _ _) .nil))
      (.swap _ _ _)
  have hleaf : Rearranged b.functions (Role.ofKey "not")
      (.object [("name", .text "."), ("startsWith", .text "a")])
      (.object [("StartsWith", .text "a"), ("Name", .text ".")]) := by
    rw [show Role.ofKey "not" = .conditions by decide +kernel]
    exact .single (.condition (by decide +kernel)
      (.cons (by decide +kernel) (.same _ _) (.cons (by decide +kernel) (.same _ _) .nil))
      (.swap _ _ _))
  have hnegated : Rearranged b.functions .condition
      (.object [("not", .object [("name", .text "."), ("startsWith", .text "a")])])
      (.object [("NOT", .object [("StartsWith", .text "a"), ("Name", .text ".")])]) :=
    .condition (by decide +kernel) (.cons (by decide +kernel) hleaf .nil) (.refl _)
  have hdocument : Rearranged b.functions .condition document document' := by
    refine .condition (by decide +kernel) (.cons (by decide +kernel) (.same _ _)
      (.cons (by decide +kernel) ?_ .nil)) (.swap _ _ _)
    rw [show Role.ofKey "anyOf" = .conditions by decide +kernel]
    exact .several (.cons hcomputed (.cons hnegated .nil))
  have hb : b.functions.LooksUp := Function.looksUp_standard Regex.engine
  have hsome : (b.build document).toOption.isSome = true := by decide +kernel
  obtain ⟨c, hc⟩ := Option.isSome_iff_exists.1 hsome
  exact ⟨hdocument, c, toOption_eq_some.1 hc, build_rearranged hb hdocument c⟩

end Sift
