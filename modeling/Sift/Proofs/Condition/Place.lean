import Sift.Condition.Context

/-! Paths that are put together.

One path behind another is the same whichever are joined first (`joinPath_assoc`), and a
blank path or a lone dot adds nothing. So the path of an item is that of the items around it,
with its own path inside of them behind. -/
namespace Sift

section Join

variable {a b c : String}

theorem isEmptyPath_empty : isEmptyPath "" = true := rfl

theorem toList_ne_nil (h : isEmptyPath a = false) : a.toList ≠ [] := by
  intro hnil
  rw [String.toList_eq_nil_iff.1 hnil] at h
  cases h

/-- A path stays one, whatever comes behind it. -/
theorem isEmptyPath_append (h : isEmptyPath a = false) (b : String) :
    isEmptyPath (a ++ b) = false := by
  have hne := toList_ne_nil h
  obtain ⟨hblank, hdot⟩ := Bool.or_eq_false_iff.1 h
  rw [beq_eq_false_iff_ne] at hdot
  refine Bool.or_eq_false_iff.2 ⟨?_, ?_⟩
  · rw [Text.isBlankText, String.toList_append, List.all_append, Bool.and_eq_false_iff]
    exact .inl hblank
  · rw [beq_eq_false_iff_ne]
    intro happend
    have hlist : a.toList ++ b.toList = ['.'] := by
      rw [← String.toList_append, happend]
      rfl
    obtain ⟨hnil, -⟩ | ⟨hsingle, -⟩ := List.append_eq_singleton_iff.1 hlist
    · exact hne hnil
    · exact hdot (String.toList_inj.1 hsingle)

theorem startsWith_append (h : isEmptyPath a = false) (b : String) :
    (a ++ b).startsWith "[" = a.startsWith "[" := by
  have hne := toList_ne_nil h
  rw [Bool.eq_iff_iff, String.startsWith_string_iff, String.startsWith_string_iff,
    String.toList_append]
  match ha : a.toList with
  | [] => exact absurd ha hne
  | x :: xs =>
    show ['['] <+: x :: (xs ++ b.toList) ↔ ['['] <+: x :: xs
    simp only [List.cons_prefix_cons, List.nil_prefix]

/-- A path that leads nowhere else is the same as none. -/
def plainPath (a : String) : String := if isEmptyPath a then "" else a

theorem plainPath_of_empty (h : isEmptyPath a = true) : plainPath a = "" := if_pos h

theorem plainPath_of_path (h : isEmptyPath a = false) : plainPath a = a := by
  rw [plainPath, h]
  rfl

theorem joinPath_empty_left (h : isEmptyPath a = true) : joinPath a b = plainPath b := if_pos h

theorem joinPath_empty_right (h : isEmptyPath b = true) : joinPath a b = plainPath a := by
  rw [joinPath, h, plainPath]
  rfl

/-- What stands between two paths that are joined. -/
def separator (b : String) : String := if b.startsWith "[" then "" else "."

theorem joinPath_eq (ha : isEmptyPath a = false) (hb : isEmptyPath b = false) :
    joinPath a b = a ++ separator b ++ b := by
  rw [joinPath, ha, hb, separator]
  cases b.startsWith "["
  · rfl
  · exact congrArg (· ++ b) String.append_empty.symm

theorem isEmptyPath_plainPath : isEmptyPath (plainPath a) = isEmptyPath a := by
  cases h : isEmptyPath a with
  | true => rw [plainPath_of_empty h, isEmptyPath_empty]
  | false => rw [plainPath_of_path h, h]

theorem isEmptyPath_joinPath : isEmptyPath (joinPath a b) = (isEmptyPath a && isEmptyPath b) := by
  cases ha : isEmptyPath a with
  | true => rw [joinPath_empty_left ha, isEmptyPath_plainPath, Bool.true_and]
  | false =>
    cases hb : isEmptyPath b with
    | true => rw [joinPath_empty_right hb, isEmptyPath_plainPath, ha, Bool.false_and]
    | false =>
      rw [joinPath_eq ha hb, String.append_assoc]
      exact isEmptyPath_append ha _

theorem joinPath_plainPath_left : joinPath (plainPath a) b = joinPath a b := by
  cases ha : isEmptyPath a with
  | true => rw [plainPath_of_empty ha, joinPath_empty_left ha, joinPath_empty_left isEmptyPath_empty]
  | false => rw [plainPath_of_path ha]

theorem joinPath_plainPath_right : joinPath a (plainPath b) = joinPath a b := by
  cases hb : isEmptyPath b with
  | true =>
    rw [plainPath_of_empty hb, joinPath_empty_right hb, joinPath_empty_right isEmptyPath_empty]
  | false => rw [plainPath_of_path hb]

theorem plainPath_joinPath : plainPath (joinPath a b) = joinPath a b := by
  have h : isEmptyPath (joinPath a b) = (isEmptyPath a && isEmptyPath b) := isEmptyPath_joinPath
  cases ha : isEmptyPath a with
  | true =>
    rw [joinPath_empty_left ha]
    cases hb : isEmptyPath b with
    | true => rw [plainPath_of_empty hb, plainPath_of_empty isEmptyPath_empty]
    | false => rw [plainPath_of_path hb, plainPath_of_path hb]
  | false =>
    rw [ha, Bool.false_and] at h
    exact plainPath_of_path h

theorem joinPath_assoc (a b c : String) :
    joinPath (joinPath a b) c = joinPath a (joinPath b c) := by
  cases hb : isEmptyPath b with
  | true =>
    rw [joinPath_empty_right hb, joinPath_empty_left hb, joinPath_plainPath_left,
      joinPath_plainPath_right]
  | false =>
    have hbc : isEmptyPath (joinPath b c) = false := by rw [isEmptyPath_joinPath, hb, Bool.false_and]
    have hab : isEmptyPath (joinPath a b) = false := by rw [isEmptyPath_joinPath, hb, Bool.and_false]
    cases ha : isEmptyPath a with
    | true => rw [joinPath_empty_left ha, plainPath_of_path hb, joinPath_empty_left ha,
        plainPath_joinPath]
    | false =>
      cases hc : isEmptyPath c with
      | true => rw [joinPath_empty_right hc, plainPath_joinPath, joinPath_empty_right hc,
          joinPath_plainPath_right]
      | false =>
        -- A bracket in front of `b` is in front of all that begins with it.
        have hsep : separator (b ++ separator c ++ c) = separator b := by
          rw [String.append_assoc, separator, startsWith_append hb, separator]
        rw [joinPath_eq hab hc, joinPath_eq ha hbc, joinPath_eq ha hb, joinPath_eq hb hc, hsep]
        simp only [String.append_assoc]

end Join

end Sift
