import Sift.Proofs.Path.Likeness
import Sift.Yaml.TaggedValue
import Sift.Regex.Engine

/-! Tagged values without their tags.

A value with tags has a plain one beside it: without tags, and without the members whose names
are no texts (`bare`). As long as no name has a tag of its own and all floats are finite
(`isTame`), the two look the same at every depth (`likeness_bare`), and so a path selects from
one the plain values of what it selects from the other (`evaluate_bare`). -/
namespace Sift.Yaml.TaggedValue

open Number

/-! ### Plain values -/

mutual

/-- The value without tags and without members under other names than texts. There are no
floats in plain data but finite ones. -/
def bare : TaggedValue → Value
  | .null => .null
  | .bool b => .bool b
  | .int n => .int n
  | .float x => if x.isFinite then .float x else .null
  | .text s => .text s
  | .sequence items => .array (bareItems items)
  | .mapping members => .object (bareMembers members)
  | .tagged _ v => v.bare

def bareItems : List TaggedValue → List Value
  | [] => []
  | v :: rest => v.bare :: bareItems rest

def bareMembers : List (TaggedValue × TaggedValue) → List (String × Value)
  | [] => []
  | (k, v) :: rest =>
    match k.text? with
    | some name => (name, v.bare) :: bareMembers rest
    | none => bareMembers rest

end

def isTagged : TaggedValue → Bool
  | .tagged .. => true
  | _ => false

mutual

/-- No name of a member is tagged, and all floats are finite. -/
def isTame : TaggedValue → Bool
  | .float x => x.isFinite
  | .sequence items => areTameItems items
  | .mapping members => areTameMembers members
  | .tagged _ v => v.isTame
  | _ => true

def areTameItems : List TaggedValue → Bool
  | [] => true
  | v :: rest => v.isTame && areTameItems rest

def areTameMembers : List (TaggedValue × TaggedValue) → Bool
  | [] => true
  | (k, v) :: rest => !k.isTagged && v.isTame && areTameMembers rest

end

/-! ### Tags do not show -/

theorem isTagged_untag (v : TaggedValue) : v.untag.isTagged = false := by
  fun_induction untag v with
  | case1 _ v ih => exact ih
  | case2 v hv =>
    cases v with
    | tagged tag v => exact absurd rfl (hv tag v)
    | _ => rfl

theorem bare_untag (v : TaggedValue) : v.untag.bare = v.bare := by
  fun_induction untag v with
  | case1 _ v ih => rw [ih, bare]
  | case2 v => rfl

theorem isTame_untag (v : TaggedValue) : v.untag.isTame = v.isTame := by
  fun_induction untag v with
  | case1 _ v ih => rw [ih, isTame]
  | case2 v => rfl

theorem untag_of_isTagged {v : TaggedValue} (h : v.isTagged = false) : v.untag = v := by
  cases v with
  | tagged tag v => cases h
  | _ => rfl

theorem untag_untag (v : TaggedValue) : v.untag.untag = v.untag :=
  untag_of_isTagged v.isTagged_untag

theorem shape_untag (v : TaggedValue) : Viewable.shape v.untag = Viewable.shape v := by
  simp only [Viewable.shape, untag_untag]

theorem named?_untag (v : TaggedValue) : Viewable.named? v.untag = Viewable.named? v := by
  funext name
  simp only [Viewable.named?, untag_untag]

/-! ### The plain value looks the same -/

/-- A value that is tame, and its plain value. -/
def Bares (v : TaggedValue) (w : Value) : Prop := v.isTame = true ∧ v.bare = w

theorem bareItems_like {items : List TaggedValue} (h : areTameItems items = true) :
    List.Forall₂ Bares items (bareItems items) := by
  induction items with
  | nil => exact .nil
  | cons v rest ih =>
    rw [areTameItems, Bool.and_eq_true] at h
    exact .cons ⟨h.1, rfl⟩ (ih h.2)

theorem bareMembers_like {members : List (TaggedValue × TaggedValue)}
    (h : areTameMembers members = true) :
    MembersLike Bares (members.filterMap fun (k, v) => k.text?.map fun s => (s, v))
      (bareMembers members) := by
  induction members with
  | nil => exact .nil
  | cons m rest ih =>
    obtain ⟨k, v⟩ := m
    simp only [areTameMembers, Bool.and_eq_true] at h
    rw [List.filterMap_cons, bareMembers]
    dsimp only
    cases k.text? with
    | none => exact ih h.2
    | some name => exact .cons ⟨rfl, h.1.2, rfl⟩ (ih h.2)

/-- Where a name has no tag, it is that text if it is read as that text. -/
theorem beq_text {k : TaggedValue} (h : k.isTagged = false) (name : String) :
    (k == .text name) = (k.text?.any fun s => s == name) := by
  cases k with
  | tagged tag v => cases h
  | _ => rfl

theorem named_like {members : List (TaggedValue × TaggedValue)}
    (h : areTameMembers members = true) (name : String) :
    Option.Rel Bares ((members.find? fun m => m.1 == .text name).map Prod.snd)
      (Value.member? (bareMembers members) name) := by
  induction members with
  | nil => exact .none
  | cons m rest ih =>
    obtain ⟨k, v⟩ := m
    simp only [areTameMembers, Bool.and_eq_true, Bool.not_eq_true'] at h
    rw [List.find?_cons, bareMembers, beq_text h.1.1]
    cases k.text? with
    | none => exact ih h.2
    | some s =>
      simp only [Option.any_some, Value.member?, List.find?_cons]
      cases s == name with
      | false => exact ih h.2
      | true => exact .some ⟨h.1.2, rfl⟩

theorem bare_float {x : Binary64} (h : x.isFinite = true) : (float x).bare = .float x := if_pos h

/-- **A tame value and its plain value look the same.** -/
theorem likeness_bare : Likeness Bares := by
  constructor
  · rintro v _ ⟨htame, rfl⟩
    have htag := v.isTagged_untag
    rw [← isTame_untag] at htame
    rw [← shape_untag, ← bare_untag]
    generalize v.untag = u at htag htame
    cases u with
    | float x =>
      rw [bare_float htame]
      exact .float x
    | sequence items => exact .array (bareItems_like htame)
    | mapping members => exact .object (bareMembers_like htame)
    | tagged tag v => cases htag
    | null => exact .null
    | bool b => exact .bool b
    | int n => exact .int n
    | text s => exact .text s
  · rintro v _ ⟨htame, rfl⟩ name
    have htag := v.isTagged_untag
    rw [← isTame_untag] at htame
    rw [← named?_untag, ← bare_untag]
    generalize v.untag = u at htag htame
    cases u with
    | float x =>
      rw [bare_float htame]
      exact .none
    | mapping members => exact named_like htame name
    | tagged tag v => cases htag
    | _ => exact .none

/-! ### Paths -/

open Sift.Path

theorem bares_forall₂ {vs : List TaggedValue} {ws : List Value} (h : List.Forall₂ Bares vs ws) :
    ws = vs.map bare := by
  induction h with
  | nil => rfl
  | cons hvw _ ih => rw [List.map_cons, ← hvw.2, ih]

/-- **From the plain value of a tame value, a path selects the plain values of what it selects
from the value itself**: it is found in both or in neither, gives a single value from both or
sequences from both, and the values are in the same order. -/
theorem evaluate_bare (p : Program) (o : QueryOptions) (v : TaggedValue)
    (h : v.isTame = true) :
    p.evaluate o v.bare = (p.evaluate o v).map fun
      | .scalar u => .scalar u.bare
      | .sequence us => .sequence (us.map bare) := by
  have hbares : Bares v v.bare := ⟨h, rfl⟩
  have hlike := evaluate_like likeness_bare p o hbares
  generalize p.evaluate o v = a, p.evaluate o v.bare = b at hlike
  cases hlike with
  | none => rfl
  | some hab =>
    cases hab with
    | scalar hvw => rw [← hvw.2]; rfl
    | sequence hvws => rw [bares_forall₂ hvws]; rfl

theorem evaluate_bare_filtered :
    let p := Program.mk "$..[?(@.n > 1)]" [] [.root, .descendant "*" false, .filter
      (.compare .gt (.mk "@.n" [] [.current, .member "N" false]) (.literal (.int 1)))]
    let o : QueryOptions := ⟨false, 100, ⟨0, 0⟩, Regex.engine, defaultSizeLimit⟩
    let v : TaggedValue := .tagged "top" (.mapping [(.int 1, .null), (.text "a", .tagged "list"
      (.sequence [.mapping [(.text "n", .tagged "two" (.int 2)), (.bool true, .null)],
        .mapping [(.text "n", .int 1)]]))])
    v.isTame = true ∧
      p.evaluate o v.bare = some (.sequence [.object [("n", .int 2)]]) := by
  intro p o v
  refine ⟨rfl, ?_⟩
  rw [evaluate_bare p o v rfl]
  rfl

end Sift.Yaml.TaggedValue
