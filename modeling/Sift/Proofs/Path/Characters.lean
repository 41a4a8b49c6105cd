import Sift.Path.Scan
import Sift.Proofs.Text.Blank

/-! Characters of a path, and the runs of them that a reader takes.

A reader takes characters as long as they are of its kind. It gives back a run of that
kind whatever comes after it, if only the rest starts with a character of another kind:
`Ends` says so, and the facts below say which characters are of which kind. -/
namespace Sift.Path

open Text

/-! ### Where a reader ends -/

/-- The rest of a text starts with nothing that `p` holds of. -/
def Ends (p : Char → Bool) (rest : List Char) : Prop := ∀ c ∈ rest.head?, p c = false

theorem ends_cons {p : Char → Bool} {c : Char} {rest : List Char} (h : p c = false) :
    Ends p (c :: rest) := by
  intro d hd
  cases hd
  exact h

theorem Ends.dropWhile {p : Char → Bool} {rest : List Char} (h : Ends p rest) :
    rest.dropWhile p = rest :=
  dropWhile_eq_self h

theorem Ends.takeWhile {p : Char → Bool} {rest : List Char} (h : Ends p rest) :
    rest.takeWhile p = [] := by
  cases rest with
  | nil => rfl
  | cons c rest => rw [List.takeWhile_cons, h c rfl, if_neg Bool.false_ne_true]

/-- The rest of a text starts with one of `cs`. -/
def StartsWith (cs : List Char) (rest : List Char) : Prop := ∃ c ∈ cs, rest.head? = some c

theorem StartsWith.mono {cs ds rest : List Char} (h : StartsWith cs rest) (hsub : cs ⊆ ds) :
    StartsWith ds rest := by
  obtain ⟨c, hc, hhead⟩ := h
  exact ⟨c, hsub hc, hhead⟩

theorem StartsWith.append {cs run : List Char} (h : StartsWith cs run) (rest : List Char) :
    StartsWith cs (run ++ rest) := by
  obtain ⟨c, hc, hhead⟩ := h
  refine ⟨c, hc, ?_⟩
  rw [List.head?_append, hhead]
  rfl

theorem StartsWith.ends {cs rest : List Char} {p : Char → Bool} (h : StartsWith cs rest)
    (hp : ∀ c ∈ cs, p c = false) : Ends p rest := by
  obtain ⟨c, hc, hhead⟩ := h
  intro d hd
  rw [hhead] at hd
  cases hd
  exact hp c hc

section Run

variable {p : Char → Bool} {run rest : List Char} (hrun : ∀ c ∈ run, p c = true)
  (hrest : Ends p rest)
include hrun hrest

theorem takeWhile_run : (run ++ rest).takeWhile p = run := by
  rw [List.takeWhile_append_of_pos hrun, hrest.takeWhile, List.append_nil]

theorem dropWhile_run : (run ++ rest).dropWhile p = rest := by
  rw [List.dropWhile_append_of_pos hrun, hrest.dropWhile]

end Run

/-! ### Characters -/

/-- What holds of the characters of a list is decided along the list, and not for all the
characters there are. -/
instance (priority := 2000) decidableForallMem {p : Char → Prop} [DecidablePred p]
    (cs : List Char) : Decidable (∀ c ∈ cs, p c) :=
  List.decidableBAll p cs

/-- The characters that a path or a predicate puts between its names. -/
def delimiters : List Char := [
  '.', '+', '[', ']', '=', '!', '<', '>', '~', '&', '|', '(', ')', '$', '@', '*', '?', '\'', '"']

theorem isNameChar_delimiter : ∀ c ∈ delimiters, isNameChar c = false := by
  decide +kernel

/-- What may stand behind a path in a predicate: a comparison, a connective or the end of a
group. -/
def breaks : List Char := ['=', '!', '<', '>', '~', '&', '|', ')']

/-- What may stand behind a relation in a predicate. -/
def stops : List Char := ['&', '|', ')']

/-- What starts those words of a predicate that are no literals. -/
def marks : List Char := [']', '(', ')', '@', '$', '!', '=', '~', '<', '>', '&', '|']

theorem stops_subset : stops ⊆ breaks := by decide

theorem isNameChar_break : ∀ c ∈ breaks, isNameChar c = false := by
  have hsub : breaks ⊆ delimiters := by decide
  intro c hc
  exact isNameChar_delimiter c (hsub hc)

theorem isNameChar_blank : ∀ n ∈ blankPoints, isNameChar (Char.ofNat n) = false := by
  decide +kernel

theorem isBlank_of_isNameChar {c : Char} (h : isNameChar c = true) : isBlank c = false := by
  rw [Bool.eq_false_iff]
  intro hb
  have hn := isNameChar_blank _ ((isBlank_iff c).1 hb)
  rw [Char.ofNat_toNat, h] at hn
  cases hn

theorem isBlank_delimiter : ∀ c ∈ delimiters ++ ['-', ':', ',', 't', 'f'], isBlank c = false := by
  decide

theorem isQuote_of_ne {c : Char} (hsingle : c ≠ '\'') (hdouble : c ≠ '"') : isQuote c = false := by
  rw [isQuote, beq_false_of_ne hsingle, beq_false_of_ne hdouble]
  rfl

theorem isBlank_of_isDigit {c : Char} (h : c.isDigit = true) : isBlank c = false := by
  rw [Bool.eq_false_iff]
  intro hb
  have hp := (isBlank_iff c).1 hb
  have hd : 48 ≤ c.toNat ∧ c.toNat ≤ 57 := Char.isDigit_iff_toNat.1 h
  simp only [blankPoints, List.mem_cons, List.not_mem_nil, or_false] at hp
  omega

theorem skipBlanks_cons {c : Char} {rest : List Char} (h : isBlank c = false) :
    skipBlanks (c :: rest) = c :: rest :=
  (ends_cons h).dropWhile

end Sift.Path
