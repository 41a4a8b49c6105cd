import Sift.Text.Integer

/-! Integers read back as they were written. -/
namespace Sift.Text

/-- The digits of a natural number are decimal digits, at least one. -/
theorem isDigit_of_mem_digits {n : Nat} {c : Char} (h : c ∈ Nat.toDigits 10 n) :
    c.isDigit = true :=
  Nat.isDigit_of_mem_toDigits (by decide) (by decide) h

theorem digitsFrom_eq (start : Nat) (cs : List Char) :
    digitsFrom start cs = Nat.ofDigitChars 10 cs start := by
  rw [Nat.ofDigitChars_eq_foldl]
  rfl

theorem toDigits_digit {c : Char} (h : c.isDigit = true) :
    Nat.toDigits 10 (c.toNat - '0'.toNat) = [c] := by
  have hrange : 48 ≤ c.toNat ∧ c.toNat ≤ 57 := Char.isDigit_iff_toNat.1 h
  have hlt : c.toNat - '0'.toNat < 10 := by
    show c.toNat - 48 < 10
    omega
  rw [Nat.toDigits_of_lt_base hlt, List.cons.injEq, and_iff_left rfl, ← Char.toNat_inj,
    Nat.toNat_digitChar_of_lt_ten hlt]
  show 48 + (c.toNat - 48) = c.toNat
  omega

/-- Digits behind a number that is not zero are the digits of a larger number. -/
theorem toDigits_ofDigitChars {digits : List Char} (h : ∀ c ∈ digits, c.isDigit = true) {n : Nat}
    (hn : 0 < n) :
    Nat.toDigits 10 (Nat.ofDigitChars 10 digits n) = Nat.toDigits 10 n ++ digits := by
  induction digits generalizing n with
  | nil => rw [Nat.ofDigitChars_nil, List.append_nil]
  | cons d digits ih =>
    have hd := h d List.mem_cons_self
    have hrange : 48 ≤ d.toNat ∧ d.toNat ≤ 57 := Char.isDigit_iff_toNat.1 hd
    have hlt : d.toNat - '0'.toNat < 10 := by
      show d.toNat - 48 < 10
      omega
    have hmore : ∀ c ∈ digits, c.isDigit = true := fun c hc => h c (List.mem_cons_of_mem d hc)
    rw [Nat.ofDigitChars_cons, ih hmore (by omega),
      ← Nat.toDigits_append_toDigits (by decide) hn hlt, toDigits_digit hd, List.append_assoc,
      List.singleton_append]

theorem readNat?_digits (n : Nat) : readNat? (Nat.toDigits 10 n) = some n := by
  have hne : (Nat.toDigits 10 n).isEmpty = false := by
    rw [List.isEmpty_eq_false_iff]
    exact Nat.toDigits_ne_nil
  have hall : (Nat.toDigits 10 n).all Char.isDigit = true := by
    rw [List.all_eq_true]
    intro c hc
    exact isDigit_of_mem_digits hc
  rw [readNat?, hne, hall, digitsFrom_eq, Nat.ofDigitChars_ten_toDigits]
  rfl

/-- A number is written as its digits, behind a sign if it is negative. -/
theorem toList_toString (i : Int) : (toString i).toList =
    if i < 0 then '-' :: Nat.toDigits 10 i.natAbs else Nat.toDigits 10 i.natAbs := by
  rw [Int.toString_eq_repr]
  cases i with
  | ofNat n =>
    have : ¬ (Int.ofNat n < 0) := by simp
    rw [if_neg this]
    exact Nat.toList_repr
  | negSucc n =>
    rw [if_pos (Int.negSucc_lt_zero n)]
    simp [Int.repr, Int.natAbs]

theorem readInteger?_digits (n : Nat) : readInteger? (Nat.toDigits 10 n) = some (n : Int) := by
  have hn := readNat?_digits n
  unfold readInteger?
  split
  · rename_i h
    have := isDigit_of_mem_digits (n := n) (c := '-') (h ▸ List.mem_cons_self)
    exact absurd this (by decide)
  · rename_i h
    have := isDigit_of_mem_digits (n := n) (c := '+') (h ▸ List.mem_cons_self)
    exact absurd this (by decide)
  · rw [hn]
    rfl

theorem readInteger?_toString (i : Int) : readInteger? (toString i).toList = some i := by
  rw [toList_toString]
  split
  · rename_i hi
    rw [readInteger?, readNat?_digits]
    show some (-(i.natAbs : Int)) = some i
    congr 1
    omega
  · rename_i hi
    rw [readInteger?_digits]
    congr 1
    omega

/-- What fits a word of 64 bits is read back from what is written. -/
theorem readInt64?_toString {i : Int} (h : fitsInt64 i = true) :
    readInt64? (toString i).toList = some i := by
  rw [readInt64?, readInteger?_toString, Option.filter_some, if_pos h]

/-! ### Numbers in brackets -/

theorem toList_indexed (path : String) (i : Nat) :
    s!"{path}[{i}]".toList = path.toList ++ '[' :: ((toString i).toList ++ [']']) := by
  show (path ++ "[" ++ toString i ++ "]").toList = _
  simp only [String.toList_append, List.append_assoc]
  rfl

theorem toList_toString_nat (n : Nat) : (toString n).toList = Nat.toDigits 10 n :=
  Nat.toList_repr

/-- Different numbers are written differently. -/
theorem toString_injective {i j : Nat} (h : (toString i).toList = (toString j).toList) : i = j := by
  rw [toList_toString_nat, toList_toString_nat] at h
  rw [← Nat.ofDigitChars_ten_toDigits (n := i), h, Nat.ofDigitChars_ten_toDigits]

theorem bracket_not_mem_toString (i : Nat) : ']' ∉ (toString i).toList := by
  rw [toList_toString_nat]
  exact fun h => absurd (isDigit_of_mem_digits h) (by decide)

/-! ### Numbers with zeros in front -/

theorem toList_writePadded (width n : Nat) : (writePadded width n).toList =
    List.replicate (width - (Nat.toDigits 10 n).length) '0' ++ Nat.toDigits 10 n := by
  rw [writePadded, String.toList_ofList, toList_toString_nat]

theorem isDigit_of_mem_padded {width n : Nat} {c : Char} (h : c ∈ (writePadded width n).toList) :
    c.isDigit = true := by
  rw [toList_writePadded, List.mem_append] at h
  obtain h | h := h
  · rw [(List.mem_replicate.1 h).2]
    rfl
  · exact isDigit_of_mem_digits h

theorem padded_ne_nil (width n : Nat) : (writePadded width n).toList ≠ [] := by
  rw [toList_writePadded]
  exact List.append_ne_nil_of_right_ne_nil _ Nat.toDigits_ne_nil

/-- Zeros in front do not count. -/
theorem digitsFrom_padded (width n : Nat) : digitsFrom 0 (writePadded width n).toList = n := by
  have hzeros (k : Nat) : digitsFrom 0 (List.replicate k '0') = 0 := by
    induction k with
    | zero => rfl
    | succ k ih => exact ih
  rw [toList_writePadded, digitsFrom, List.foldl_append]
  show digitsFrom (digitsFrom 0 _) (Nat.toDigits 10 n) = n
  rw [hzeros, digitsFrom_eq, Nat.ofDigitChars_ten_toDigits]

theorem readInt64?_padded {n : Nat} (hn : fitsInt64 n = true) (width : Nat) :
    readInt64? (writePadded width n).toList = some (n : Int) := by
  have hnat : readNat? (writePadded width n).toList = some n := by
    rw [readNat?, List.isEmpty_eq_false_iff.2 (padded_ne_nil width n),
      List.all_eq_true.2 fun _ => isDigit_of_mem_padded, digitsFrom_padded]
    rfl
  have hsign (c : Char) (hc : ¬ c.isDigit = true) (cs : List Char) :
      (writePadded width n).toList ≠ c :: cs :=
    fun h => hc (isDigit_of_mem_padded (h ▸ List.mem_cons_self))
  unfold readInt64? readInteger?
  split
  · rename_i h
    exact absurd h (hsign '-' (by decide) _)
  · rename_i h
    exact absurd h (hsign '+' (by decide) _)
  · rw [hnat, Option.map_some, Option.filter_some]
    exact if_pos hn

end Sift.Text
