import Sift.Text.Ascii
import Sift.Text.LowerCase

/-! Texts that differ in the case of ASCII letters.

Such texts have the same lower case: the letters are lowered as they are in ASCII, and whether a
sigma ends a word does not depend on the case of the letters around it. -/
namespace Sift.Text

theorem sameAscii_eq_true {a b : String} : sameAscii a b = true ↔ asciiLower a = asciiLower b :=
  beq_iff_eq

theorem sameAscii_refl (a : String) : sameAscii a a = true := sameAscii_eq_true.2 rfl

/-- Texts that are the same go together, on the left of a comparison. -/
theorem sameAscii_congr {a b : String} (h : sameAscii a b = true) (c : String) :
    sameAscii a c = sameAscii b c := by
  rw [sameAscii, sameAscii, sameAscii_eq_true.1 h]

theorem sameAscii_comm (a b : String) : sameAscii a b = sameAscii b a := Bool.beq_comm

/-- All that lowering a text looks at in a character. -/
structure SameLower (c d : Char) : Prop where
  char : lowerChar c = lowerChar d
  cased : cased.contains c = Text.cased.contains d
  ignorable : caseIgnorable.contains c = caseIgnorable.contains d
  sigma : c = 'Σ' ↔ d = 'Σ'
  dotted : c = 'İ' ↔ d = 'İ'

theorem toNat_of_toLower_ne {c : Char} (h : c.toLower ≠ c) : c.toNat < 128 := by
  unfold Char.toLower at h
  split at h
  · rename_i hc
    have hle := UInt32.le_iff_toNat_le.1 hc.2
    exact Nat.lt_of_le_of_lt hle (by decide)
  · exact absurd rfl h

theorem sameLower_ascii : ∀ n < 128,
    lowerChar (Char.ofNat n).toLower = lowerChar (Char.ofNat n) ∧
    cased.contains (Char.ofNat n).toLower = cased.contains (Char.ofNat n) ∧
    caseIgnorable.contains (Char.ofNat n).toLower = caseIgnorable.contains (Char.ofNat n) ∧
    Char.ofNat n ≠ 'Σ' ∧ (Char.ofNat n).toLower ≠ 'Σ' ∧
    Char.ofNat n ≠ 'İ' ∧ (Char.ofNat n).toLower ≠ 'İ' := by
  decide +kernel

theorem sameLower_toLower (c : Char) : SameLower c.toLower c := by
  by_cases h : c.toLower = c
  · rw [h]
    exact ⟨rfl, rfl, rfl, .rfl, .rfl⟩
  · have hascii := sameLower_ascii c.toNat (toNat_of_toLower_ne h)
    rw [Char.ofNat_toNat] at hascii
    obtain ⟨hchar, hcased, hignorable, hsigma, hsigma', hdotted, hdotted'⟩ := hascii
    exact ⟨hchar, hcased, hignorable, iff_of_false hsigma' hsigma, iff_of_false hdotted' hdotted⟩

theorem meetsCased_map_toLower (cs : List Char) :
    meetsCased (cs.map Char.toLower) = meetsCased cs := by
  have hignorable : caseIgnorable.contains ∘ Char.toLower = caseIgnorable.contains :=
    funext fun c => (sameLower_toLower c).ignorable
  unfold meetsCased
  rw [List.dropWhile_map, hignorable]
  cases cs.dropWhile caseIgnorable.contains with
  | nil => rfl
  | cons c rest => exact (sameLower_toLower c).cased

theorem lowerFrom_map_toLower (before cs : List Char) :
    lowerFrom (before.map Char.toLower) (cs.map Char.toLower) = lowerFrom before cs := by
  induction cs generalizing before with
  | nil => rfl
  | cons c cs ih =>
    have hc := sameLower_toLower c
    rw [List.map_cons, lowerFrom, lowerFrom, ← List.map_cons, ih, meetsCased_map_toLower,
      meetsCased_map_toLower, hc.char]
    simp only [hc.sigma, hc.dotted]

theorem lowerText_asciiLower (s : String) : lowerText (asciiLower s) = lowerText s := by
  rw [lowerText, lowerText, asciiLower, String.toList_ofList, lower, lower,
    ← lowerFrom_map_toLower [] s.toList, List.map_nil]

theorem lowerText_congr {a b : String} (h : sameAscii a b = true) : lowerText a = lowerText b := by
  rw [← lowerText_asciiLower a, ← lowerText_asciiLower b, sameAscii_eq_true.1 h]

end Sift.Text
