import Mathlib.Tactic.SplitIfs
import Sift.Text.Blank

/-! White space, and texts that have none at their ends. -/
namespace Sift.Text

/-- The code points of white space. -/
def blankPoints : List Nat := [
  9, 10, 11, 12, 13, 32, 133, 160, 5760, 8192, 8193, 8194, 8195, 8196, 8197, 8198, 8199, 8200,
  8201, 8202, 8232, 8233, 8239, 8287, 12288]

theorem isBlank_iff (c : Char) : isBlank c = true ↔ c.toNat ∈ blankPoints := by
  unfold isBlank CodeSet.contains
  generalize c.toNat = n
  -- There are only twenty entries, so the search starts with its last five steps.
  have hshort : rank blanks.flips n 12 0 = rank blanks.flips n 5 0 := rfl
  rw [hshort]
  simp [rank, blanks]
  split_ifs <;> simp [blankPoints] <;> omega

theorem dropWhile_eq_self {p : Char → Bool} {cs : List Char} (h : ∀ c ∈ cs.head?, p c = false) :
    cs.dropWhile p = cs := by
  cases cs with
  | nil => rfl
  | cons c cs => rw [List.dropWhile_cons, h c rfl, if_neg Bool.false_ne_true]

/-- A text that has what is stripped at neither end stays as it is. -/
theorem stripWhile_eq_self {p : Char → Bool} {cs : List Char} (hf : ∀ c ∈ cs.head?, p c = false)
    (hl : ∀ c ∈ cs.getLast?, p c = false) : stripWhile p cs = cs := by
  rw [← List.head?_reverse] at hl
  rw [stripWhile, dropEndWhile, dropWhile_eq_self hf, dropWhile_eq_self hl, List.reverse_reverse]

theorem head_dropWhile {p : Char → Bool} {cs : List Char} :
    ∀ c ∈ (cs.dropWhile p).head?, p c = false := by
  intro c hc
  have hhead := List.head?_dropWhile_not p cs
  rw [Option.mem_def.1 hc] at hhead
  exact hhead

/-- Nothing that is stripped stands at the start of what is left. -/
theorem head_stripWhile (p : Char → Bool) (cs : List Char) :
    ∀ c ∈ (stripWhile p cs).head?, p c = false := by
  have hfront : stripWhile p cs <+: cs.dropWhile p := by
    have hback := List.reverse_prefix.2 ((cs.dropWhile p).reverse.dropWhile_suffix p)
    rwa [List.reverse_reverse] at hback
  intro c hc
  suffices hhead : c ∈ (cs.dropWhile p).head? from head_dropWhile c hhead
  obtain ⟨rest, hrest⟩ := hfront
  rw [← hrest, List.head?_append, Option.mem_def.1 hc]
  rfl

theorem last_stripWhile (p : Char → Bool) (cs : List Char) :
    ∀ c ∈ (stripWhile p cs).getLast?, p c = false := by
  rw [stripWhile, dropEndWhile, List.getLast?_reverse]
  exact head_dropWhile

theorem strip_strip (cs : List Char) : strip (strip cs) = strip cs :=
  stripWhile_eq_self (head_stripWhile isBlank cs) (last_stripWhile isBlank cs)

/-- The characters of a text that is trimmed. -/
theorem strip_of_trim {s : String} (h : trim s = s) : strip s.toList = s.toList := by
  have hchars := congrArg String.toList h
  rwa [trim, String.toList_ofList] at hchars

end Sift.Text
