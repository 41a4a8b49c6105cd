import Mathlib.Data.List.Infix
import Sift.Text.Split

/-! Texts that are cut at delimiters.

A text is cut at the first place where one of the delimiters stands, by the first of the list that
stands there, and what is behind that one is cut in the same way: `Cut` says so, of the parts and
of the delimiters between them. Splitting cuts a text (`cut_splitAny`), and replacing puts another
text where a single delimiter has cut it (`Cut.replaceAll_eq`). That no part has a delimiter in it
is more than a scan sees at once, but at each of its places a part goes on into what is behind it,
and there is no delimiter even then (`NoneWithin`). -/
namespace Sift.Text

variable {ds parts used : List (List Char)} {c : Char} {cs part rest d : List Char}

/-! ### Where no delimiter stands -/

/-- No delimiter stands at a place of `part`, in front of `rest`. -/
def NoneWithin (ds : List (List Char)) (part rest : List Char) : Prop :=
  ∀ back, back <:+ part → back ≠ [] → delimiterAt? ds (back ++ rest) = none

theorem noneWithin_nil : NoneWithin ds [] rest := by
  intro back hback hne
  exact absurd (List.suffix_nil.1 hback) hne

theorem noneWithin_cons : NoneWithin ds (c :: part) rest ↔
    delimiterAt? ds (c :: (part ++ rest)) = none ∧ NoneWithin ds part rest := by
  constructor
  · intro h
    exact ⟨h _ (List.suffix_refl _) (List.cons_ne_nil _ _),
      fun back hback => h back (hback.trans (List.suffix_cons _ _))⟩
  · rintro ⟨hhere, hbehind⟩ back hback hne
    rcases List.suffix_cons_iff.1 hback with rfl | hback
    · exact hhere
    · exact hbehind back hback hne

theorem delimiterAt?_eq_some (h : delimiterAt? ds cs = some d) :
    d ∈ ds ∧ d ≠ [] ∧ d <+: cs := by
  have hd := List.find?_some h
  simp only [Bool.and_eq_true, Bool.not_eq_true', List.isEmpty_eq_false_iff,
    List.isPrefixOf_iff_prefix] at hd
  exact ⟨List.mem_of_find?_eq_some h, hd⟩

/-- A delimiter in a part would stand at one of its places. -/
theorem NoneWithin.not_infix (h : NoneWithin ds part rest) (hd : d ∈ ds) (hne : d ≠ []) :
    ¬ d <:+: part := by
  rintro ⟨front, back, rfl⟩
  have hsuffix : d ++ back <:+ front ++ d ++ back := by
    rw [List.append_assoc]
    exact List.suffix_append _ _
  have hnone := h (d ++ back) hsuffix (List.append_ne_nil_of_left_ne_nil hne _)
  refine List.find?_eq_none.1 hnone d hd ?_
  rw [Bool.and_eq_true, Bool.not_eq_true', List.isEmpty_eq_false_iff, List.isPrefixOf_iff_prefix,
    List.append_assoc]
  exact ⟨hne, List.prefix_append _ _⟩

/-! ### Cuts -/

/-- The text is cut into `parts` by the delimiters `used`. -/
inductive Cut (ds : List (List Char)) : List Char → List (List Char) → List (List Char) → Prop where
  | last {part : List Char} : NoneWithin ds part [] → Cut ds part [part] []
  | next {part d rest : List Char} {parts used : List (List Char)} :
      NoneWithin ds part (d ++ rest) → delimiterAt? ds (d ++ rest) = some d →
      Cut ds rest parts used → Cut ds (part ++ (d ++ rest)) (part :: parts) (d :: used)

/-- A character where no delimiter stands belongs to the first part. -/
theorem Cut.keep (hnone : delimiterAt? ds (c :: cs) = none) (h : Cut ds cs parts used) :
    Cut ds (c :: cs) (consPart c parts) used := by
  cases h with
  | last hpart => exact .last (noneWithin_cons.2 ⟨by rwa [List.append_nil], hpart⟩)
  | next hpart hd h => exact .next (noneWithin_cons.2 ⟨hnone, hpart⟩) hd h

/-- **A text that is split is cut at its delimiters.** -/
theorem cut_splitAny (ds : List (List Char)) (cs : List Char) :
    ∃ used, Cut ds cs (splitAny ds cs) used := by
  fun_induction splitAny ds cs with
  | case1 => exact ⟨[], .last noneWithin_nil⟩
  | case2 c rest d hd ih =>
    obtain ⟨used, h⟩ := ih
    obtain ⟨-, hne, behind, hcs⟩ := delimiterAt?_eq_some hd
    obtain ⟨e, es, rfl⟩ := List.exists_cons_of_ne_nil hne
    obtain ⟨rfl, rfl⟩ : e = c ∧ es ++ behind = rest := List.cons.inj hcs
    rw [List.length_cons, Nat.add_sub_cancel, List.drop_left] at h ⊢
    exact ⟨_, Cut.next (d := e :: es) noneWithin_nil hd h⟩
  | case3 c rest hnone ih =>
    obtain ⟨used, h⟩ := ih
    exact ⟨used, h.keep hnone⟩

/-- The parts with the delimiters between them. -/
def weave : List (List Char) → List (List Char) → List Char
  | parts, [] => parts.flatten
  | [], _ => []
  | part :: parts, d :: used => part ++ (d ++ weave parts used)

namespace Cut

theorem length_eq (h : Cut ds cs parts used) : parts.length = used.length + 1 := by
  induction h with
  | last _ => rfl
  | next _ _ _ ih => rw [List.length_cons, List.length_cons, ih]

theorem weave_eq (h : Cut ds cs parts used) : weave parts used = cs := by
  induction h with
  | last _ => exact List.append_nil _
  | next _ _ _ ih => rw [weave, ih]

theorem mem_of_mem (h : Cut ds cs parts used) (hd : d ∈ used) : d ∈ ds := by
  induction h with
  | last _ => exact absurd hd List.not_mem_nil
  | next _ hfound _ ih =>
    rcases List.mem_cons.1 hd with rfl | hd
    · exact (delimiterAt?_eq_some hfound).1
    · exact ih hd

theorem not_infix (h : Cut ds cs parts used) (hpart : part ∈ parts) (hd : d ∈ ds) (hne : d ≠ []) :
    ¬ d <:+: part := by
  induction h with
  | last hnone =>
    rw [List.mem_singleton.1 hpart]
    exact hnone.not_infix hd hne
  | next hnone _ _ ih =>
    rcases List.mem_cons.1 hpart with rfl | hpart
    · exact hnone.not_infix hd hne
    · exact ih hpart

/-- At each cut the text goes on with the delimiter that cuts, the first of the list to stand
there. -/
theorem delimiterAt?_eq {parts₁ parts₂ used₁ used₂ : List (List Char)} (h : Cut ds cs parts used)
    (hparts : parts = parts₁ ++ parts₂) (hused : used = used₁ ++ d :: used₂)
    (hlength : parts₁.length = used₁.length + 1) :
    cs = weave parts₁ used₁ ++ (d ++ weave parts₂ used₂) ∧
      delimiterAt? ds (d ++ weave parts₂ used₂) = some d := by
  obtain ⟨part, parts₁, rfl⟩ := List.exists_cons_of_length_eq_add_one hlength
  induction h generalizing part parts₁ used₁ with
  | last _ => simp at hused
  | @next _ _ rest _ used _ hd h ih =>
    obtain ⟨rfl, rfl⟩ := List.cons.inj hparts
    cases used₁ with
    | nil =>
      obtain ⟨rfl, rfl⟩ := List.cons.inj hused
      obtain rfl := List.length_eq_zero_iff.1 (Nat.succ.inj hlength)
      have hrest : weave parts₂ used = rest := h.weave_eq
      rw [hrest]
      exact ⟨by rw [weave, List.flatten_singleton], hd⟩
    | cons u used₁ =>
      obtain ⟨rfl, rfl⟩ := List.cons.inj hused
      have hlength := Nat.succ.inj hlength
      obtain ⟨next, parts₁, rfl⟩ := List.exists_cons_of_length_eq_add_one hlength
      obtain ⟨hcs, hd⟩ := ih rfl next parts₁ rfl hlength
      refine ⟨?_, hd⟩
      rw [weave, hcs, List.append_assoc, List.append_assoc]

/-! ### A single delimiter -/

theorem intercalate_eq (h : Cut [d] cs parts used) : d.intercalate parts = cs := by
  induction h with
  | last _ => exact List.intercalate_singleton
  | @next _ e _ parts _ _ he h ih =>
    obtain rfl := List.mem_singleton.1 (delimiterAt?_eq_some he).1
    obtain ⟨part, parts, rfl⟩ := List.exists_cons_of_length_eq_add_one h.length_eq
    rw [List.intercalate_cons_cons, ih, List.append_assoc]

end Cut

/-! ### Replacing -/

variable {old new : List Char}

theorem startsWithSame_iff : startsWithSame true old cs = true ↔ old <+: cs := by
  induction old generalizing cs with
  | nil => simp [startsWithSame]
  | cons o old ih =>
    cases cs with
    | nil => simp [startsWithSame]
    | cons c cs => simp [startsWithSame, sameChar, ih, List.cons_prefix_cons]

theorem delimiterAt?_single (hne : old ≠ []) : delimiterAt? [old] cs = none ↔ ¬ old <+: cs := by
  simp [delimiterAt?, hne]

theorem replaceAll_here (hne : old ≠ []) (rest : List Char) :
    replaceAll true old new (old ++ rest) = new ++ replaceAll true old new rest := by
  obtain ⟨o, os, rfl⟩ := List.exists_cons_of_ne_nil hne
  have hstarts : startsWithSame true (o :: os) (o :: (os ++ rest)) = true :=
    startsWithSame_iff.2 (List.prefix_append (o :: os) rest)
  rw [List.cons_append, replaceAll, if_pos hstarts, List.length_cons, Nat.add_sub_cancel,
    List.drop_left]

/-- What has nothing in it to replace stays as it is. -/
theorem replaceAll_through (hne : old ≠ []) (h : NoneWithin [old] part rest) :
    replaceAll true old new (part ++ rest) = part ++ replaceAll true old new rest := by
  induction part with
  | nil => rfl
  | cons c part ih =>
    obtain ⟨hhere, hbehind⟩ := noneWithin_cons.1 h
    rw [delimiterAt?_single hne, ← startsWithSame_iff] at hhere
    rw [List.cons_append, replaceAll, if_neg hhere, ih hbehind, List.cons_append]

/-- **Replacing puts the new text where the old one has cut.** -/
theorem Cut.replaceAll_eq (hne : old ≠ []) (h : Cut [old] cs parts used) :
    replaceAll true old new cs = new.intercalate parts := by
  induction h with
  | @last part hpart =>
    have hthrough : replaceAll true old new (part ++ []) = part ++ replaceAll true old new [] :=
      replaceAll_through hne hpart
    rw [List.append_nil, replaceAll, List.append_nil] at hthrough
    rw [hthrough, List.intercalate_singleton]
  | @next part e _ parts _ hpart he h ih =>
    obtain rfl := List.mem_singleton.1 (delimiterAt?_eq_some he).1
    obtain ⟨next, parts, rfl⟩ := List.exists_cons_of_length_eq_add_one h.length_eq
    rw [replaceAll_through hne hpart, replaceAll_here hne, ih, List.intercalate_cons_cons,
      List.append_assoc]

end Sift.Text
