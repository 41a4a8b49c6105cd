import Sift.Proofs.Condition.Likeness
import Sift.Yaml.TaggedValue
import Sift.Regex.Engine

/-! Plain data in YAML.

All that JSON can say can be said in YAML, without tags and with texts for names (`image`). The
two look the same at every depth, and the copy of the image is the value it is the image of
(`plain?_image`). So a selector reports on the one what it reports on the other, whatever it asks
for, and whatever is given with the target (`evaluateIn_image`). -/
namespace Sift

/-! ### Data of JSON -/

namespace Value

mutual

/-- Floats are finite, and no two members of an object have the same name. -/
def isJson : Value → Bool
  | .float x => x.isFinite
  | .array items => areJsonItems items
  | .object members => areJsonMembers members
  | _ => true

def areJsonItems : List Value → Bool
  | [] => true
  | v :: rest => v.isJson && areJsonItems rest

def areJsonMembers : List (String × Value) → Bool
  | [] => true
  | (name, v) :: rest =>
    rest.all (fun m => m.1 != name) && v.isJson && areJsonMembers rest

end

/-- A member under a new name comes last. -/
theorem setMember_of_new {members : List (String × Value)} {name : String}
    (h : ∀ m ∈ members, m.1 ≠ name) (v : Value) :
    setMember members name v = members ++ [(name, v)] := by
  have hany : (members.any fun m => m.1 == name) = false := by
    simpa only [List.any_eq_false, beq_iff_eq] using h
  rw [setMember, hany]
  rfl

end Value

namespace Yaml.TaggedValue

/-! ### The image of a value -/

mutual

/-- The value in YAML, without tags, and with texts for names. -/
def image : Value → TaggedValue
  | .null => .null
  | .bool b => .bool b
  | .int n => .int n
  | .float x => .float x
  | .text s => .text s
  | .array items => .sequence (imageItems items)
  | .object members => .mapping (imageMembers members)

def imageItems : List Value → List TaggedValue
  | [] => []
  | v :: rest => image v :: imageItems rest

def imageMembers : List (String × Value) → List (TaggedValue × TaggedValue)
  | [] => []
  | (name, v) :: rest => (.text name, image v) :: imageMembers rest

end

theorem untag_image (v : Value) : (image v).untag = image v := by cases v <;> rfl

/-! ### The copy of an image -/

mutual

/-- The image of a value is that value again as plain data. -/
theorem plain?_image (v : Value) (h : v.isJson = true) : (image v).plain? = some v := by
  cases v with
  | float x =>
    rw [image, plain?]
    exact congrArg some (if_pos h)
  | array items =>
    rw [image, plain?, plainItems?_image items h]
    rfl
  | object members =>
    have hmembers := plainMembers?_image [] members h (fun _ _ _ hm => absurd hm List.not_mem_nil)
    rw [image, plain?, hmembers]
    rfl
  | _ => rfl
termination_by structural v

theorem plainItems?_image (items : List Value) (h : Value.areJsonItems items = true) :
    plainItems? (imageItems items) = some items := by
  cases items with
  | nil => rfl
  | cons v rest =>
    rw [Value.areJsonItems, Bool.and_eq_true] at h
    rw [imageItems, plainItems?, plain?_image v h.1, plainItems?_image rest h.2]
    rfl
termination_by structural items

/-- Members under new names are read one behind the other. -/
theorem plainMembers?_image (before members : List (String × Value))
    (h : Value.areJsonMembers members = true)
    (hnew : ∀ m ∈ members, ∀ b ∈ before, b.1 ≠ m.1) :
    plainMembers? before (imageMembers members) = some (before ++ members) := by
  cases members with
  | nil => rw [List.append_nil, imageMembers, plainMembers?]
  | cons m rest =>
    obtain ⟨name, v⟩ := m
    obtain ⟨hname, hrest⟩ := List.forall_mem_cons.1 hnew
    simp only [Value.areJsonMembers, Bool.and_eq_true, List.all_eq_true, bne_iff_ne] at h
    obtain ⟨⟨hothers, hv⟩, hmembers⟩ := h
    have hnext := plainMembers?_image (before ++ [(name, v)]) rest hmembers (by
      intro m hm b hb
      rcases List.mem_append.1 hb with hb | hb
      · exact hrest m hm b hb
      · rw [List.mem_singleton.1 hb]
        exact (hothers m hm).symm)
    calc plainMembers? before (imageMembers ((name, v) :: rest))
        = plainMembers? (Value.setMember before name v) (imageMembers rest) := by
          rw [imageMembers, plainMembers?, plain?_image v hv]
          rfl
      _ = some (before ++ (name, v) :: rest) := by
          rw [Value.setMember_of_new hname, hnext, List.append_assoc]
          rfl
termination_by structural members

end

/-! ### An image looks like its value -/

/-- A value of JSON, and its image. -/
def Images (t : TaggedValue) (v : Value) : Prop := v.isJson = true ∧ t = image v

theorem imageItems_like {items : List Value} (h : Value.areJsonItems items = true) :
    List.Forall₂ Images (imageItems items) items := by
  induction items with
  | nil => exact .nil
  | cons v rest ih =>
    rw [Value.areJsonItems, Bool.and_eq_true] at h
    exact .cons ⟨h.1, rfl⟩ (ih h.2)

theorem imageMembers_like {members : List (String × Value)}
    (h : Value.areJsonMembers members = true) :
    MembersLike Images
      ((imageMembers members).filterMap fun (k, v) => k.text?.map fun s => (s, v)) members := by
  induction members with
  | nil => exact .nil
  | cons m rest ih =>
    simp only [Value.areJsonMembers, Bool.and_eq_true] at h
    exact .cons ⟨rfl, h.1.2, rfl⟩ (ih h.2)

theorem image_named {members : List (String × Value)} (h : Value.areJsonMembers members = true)
    (name : String) :
    Option.Rel Images (((imageMembers members).find? fun m => m.1 == .text name).map Prod.snd)
      (Value.member? members name) := by
  induction members with
  | nil => exact .none
  | cons m rest ih =>
    simp only [Value.areJsonMembers, Bool.and_eq_true] at h
    have hsame : (text m.1 == text name) = (m.1 == name) := rfl
    simp only [imageMembers, Value.member?, List.find?_cons, hsame]
    cases m.1 == name with
    | false => exact ih h.2
    | true => exact .some ⟨h.1.2, rfl⟩

/-- **An image looks like its value, and its copy is that value.** -/
theorem mirror_images : Mirror Images := by
  refine ⟨⟨?_, ?_⟩, ?_⟩
  · rintro _ v ⟨hjson, rfl⟩
    cases v with
    | array items => exact .array (imageItems_like hjson)
    | object members => exact .object (imageMembers_like hjson)
    | null => exact .null
    | bool b => exact .bool b
    | int n => exact .int n
    | float x => exact .float x
    | text s => exact .text s
  · rintro _ v ⟨hjson, rfl⟩ name
    cases v with
    | object members => exact image_named hjson name
    | _ => exact .none
  · rintro _ v ⟨hjson, rfl⟩
    show (image v).untag.plain?.getD .null = v
    rw [untag_image, plain?_image v hjson]
    rfl

/-! ### Selectors -/

/-- **A selector reports on a value of JSON what it reports on its image in YAML**: the same
outcome, the same text if it is an error, and the same reasons in the same order, each with the
same place and message. -/
theorem evaluateIn_image (s : Selector) (j : Value) (hjson : j.isJson = true) (engine : Engine)
    (o : Options) (now : Time.Instant) (parent : String) (name type : Option String) :
    (s.evaluateIn { Context.of engine (image j) o now with
      targetName := name, targetType := type, parent := parent }).1 =
    (s.evaluateIn { Context.of engine j o now with
      targetName := name, targetType := type, parent := parent }).1 :=
  s.evaluateIn_like mirror_images ⟨⟨hjson, rfl⟩, .nil, rfl, rfl, rfl, rfl, rfl, rfl, rfl, rfl⟩

theorem evaluateIn_image_members :
    let flags : Flags := ⟨false, false, false, false, false, false⟩
    let leaf (path : String) (segments : List Path.Segment) (o : Operator) : Condition :=
      .leaf "" ⟨o, some (.field (.mk path [] segments)), flags⟩
    let s : Selector := ⟨"sizes", .group "" .allOf [
      leaf "meta" [.member "meta" false] (.equals false (.literal (.object []))),
      leaf "Kind" [.member "Kind" false] (.equals false (.literal (.text "bag")))]⟩
    let j : Value := .object [("kind", .text "box"), ("meta", .object [("a", .null)])]
    j.isJson = true ∧
      (s.evaluateIn { Context.of Regex.engine (image j) {} ⟨0, 0⟩ with
        targetName := none, targetType := some "crate", parent := "docs" }).1 =
      ⟨.noMatch, [⟨.path, "meta", "", "docs", "Is set to '\x7b\"a\":null\x7d'."⟩]⟩ := by
  intro flags leaf s j
  have hjson : j.isJson = true := by decide
  refine ⟨hjson, ?_⟩
  rw [evaluateIn_image s j hjson]
  decide +kernel

end Yaml.TaggedValue

end Sift
