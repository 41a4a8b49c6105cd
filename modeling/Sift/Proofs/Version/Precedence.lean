import Mathlib.Data.List.Basic
import Sift.Proofs.Path.Characters
import Sift.Proofs.Text.Integer
import Sift.Proofs.Version.Preorder

/-! Precedence of prereleases, as Semantic Versioning has it.

Identifiers are compared from left to right. One of digits only is a number, however long, and
all others are words; numbers go by their value and come before words, words go by the order of
their characters, and where one list goes on behind the other it comes later. `Before` and
`List.Lex` say so without a reader.

The order of prereleases takes for numbers what is read as a signed word of 64 bits. Identifiers
of digits only with a larger value are words to it, and a hyphen with digits behind it is a
negative number. Where the first identifiers that differ are of neither kind, the order is
precedence (`order_precedence`); `order_astray` shows each kind where it is not. -/
namespace Sift.Version

open Text

namespace Identifier

/-! ### Identifiers -/

/-- All characters are digits. -/
def IsNumber (id : List Char) : Prop := ∀ c ∈ id, c.isDigit = true

instance (id : List Char) : Decidable (IsNumber id) :=
  inferInstanceAs (Decidable (∀ c ∈ id, c.isDigit = true))

/-- The value of a number, however large. -/
def value (id : List Char) : Nat := Nat.ofDigitChars 10 id 0

/-- ASCII letters, digits and hyphens, at least one, and a number has no zero in front. -/
structure IsWellFormed (id : List Char) : Prop where
  nonempty : id ≠ []
  chars : ∀ c ∈ id, c.isAlphanum = true ∨ c = '-'
  leading : IsNumber id → id.head? = some '0' → id = ['0']

instance (id : List Char) : Decidable (IsWellFormed id) :=
  decidable_of_iff (id ≠ [] ∧ (∀ c ∈ id, c.isAlphanum = true ∨ c = '-') ∧
      (IsNumber id → id.head? = some '0' → id = ['0']))
    ⟨fun h => ⟨h.1, h.2.1, h.2.2⟩, fun h => ⟨h.nonempty, h.chars, h.leading⟩⟩

/-- Which of two identifiers comes first. -/
inductive Before : List Char → List Char → Prop where
  | numbers {a b : List Char} : IsNumber a → IsNumber b → value a < value b → Before a b
  | number_word {a b : List Char} : IsNumber a → ¬ IsNumber b → Before a b
  | words {a b : List Char} : ¬ IsNumber a → ¬ IsNumber b → a < b → Before a b

/-- A number below the end of the signed words of 64 bits, or a word that is none of their
negative numbers. -/
structure IsPlain (id : List Char) : Prop where
  number : IsNumber id → value id < 0x8000000000000000
  word : id.head? = some '-' → id.tail ≠ [] → IsNumber id.tail → 0x8000000000000000 < value id.tail

instance (id : List Char) : Decidable (IsPlain id) :=
  decidable_of_iff ((IsNumber id → value id < 0x8000000000000000) ∧
      (id.head? = some '-' → id.tail ≠ [] → IsNumber id.tail → 0x8000000000000000 < value id.tail))
    ⟨fun h => ⟨h.1, h.2⟩, fun h => ⟨h.number, h.word⟩⟩

theorem IsWellFormed.not_mem_dot {id : List Char} (h : IsWellFormed id) : '.' ∉ id := by
  intro hdot
  obtain hchar | hchar := h.chars '.' hdot
  · revert hchar
    decide
  · revert hchar
    decide

/-! ### Numbers -/

/-- A number without zeros in front is known by its value. -/
theorem toDigits_value {id : List Char} (h : IsWellFormed id) (hnumber : IsNumber id) :
    Nat.toDigits 10 (value id) = id := by
  obtain ⟨c, digits, rfl⟩ := List.exists_cons_of_ne_nil h.nonempty
  by_cases hzero : c = '0'
  · rw [h.leading hnumber (by rw [hzero]; rfl)]
    rfl
  · have hc : c.isDigit = true := hnumber c List.mem_cons_self
    have hrange : 48 ≤ c.toNat ∧ c.toNat ≤ 57 := Char.isDigit_iff_toNat.1 hc
    have hpos : 0 < 10 * 0 + (c.toNat - '0'.toNat) := by
      have hne : c.toNat ≠ 48 := fun heq => hzero (Char.toNat_inj.1 heq)
      show 0 < 10 * 0 + (c.toNat - 48)
      omega
    rw [value, Nat.ofDigitChars_cons,
      toDigits_ofDigitChars (fun d hd => hnumber d (List.mem_cons_of_mem c hd)) hpos,
      Nat.mul_zero, Nat.zero_add, toDigits_digit hc, List.singleton_append]

theorem value_inj {a b : List Char} (ha : IsWellFormed a) (hb : IsWellFormed b)
    (hna : IsNumber a) (hnb : IsNumber b) : value a = value b ↔ a = b := by
  refine ⟨fun heq => ?_, congrArg value⟩
  rw [← toDigits_value ha hna, ← toDigits_value hb hnb, heq]

theorem readNat?_eq (id : List Char) :
    readNat? id = if id ≠ [] ∧ IsNumber id then some (value id) else none := by
  unfold readNat? value
  rw [digitsFrom_eq]
  refine if_congr ?_ rfl rfl
  simp [IsNumber]

/-- Plain identifiers are numbers to the reader where they are numbers. -/
theorem readInt64?_plain {id : List Char} (hid : IsWellFormed id) (h : IsPlain id) :
    readInt64? id = if IsNumber id then some (value id : Int) else none := by
  unfold readInt64? readInteger?
  split
  · rename_i digits
    have hword : ¬ IsNumber ('-' :: digits) :=
      fun hnumber => absurd (hnumber '-' List.mem_cons_self) (by decide)
    rw [readNat?_eq, if_neg hword]
    by_cases hdigits : digits ≠ [] ∧ IsNumber digits
    · have hbeyond : 0x8000000000000000 < value digits := h.word rfl hdigits.1 hdigits.2
      rw [if_pos hdigits]
      show Option.filter fitsInt64 (some (-(value digits : Int))) = none
      rw [Option.filter_some, if_neg]
      simp only [fitsInt64, Bool.and_eq_true, decide_eq_true_eq]
      omega
    · rw [if_neg hdigits]
      rfl
  · rename_i digits
    obtain hplus | hplus := hid.chars '+' List.mem_cons_self
    · exact absurd hplus (by decide)
    · exact absurd hplus (by decide)
  · rw [readNat?_eq]
    by_cases hnumber : IsNumber id
    · have hfits := h.number hnumber
      rw [if_pos ⟨hid.nonempty, hnumber⟩, if_pos hnumber, Option.map_some, Option.filter_some,
        if_pos]
      · rfl
      · simp only [fitsInt64, Bool.and_eq_true, decide_eq_true_eq, Int.ofNat_eq_natCast]
        omega
    · rw [if_neg fun h => hnumber h.2, if_neg hnumber]
      rfl

/-! ### Which of two comes first -/

theorem compareChars_eq_lt (a b : List Char) : Prerelease.compareChars a b = .lt ↔ a < b := by
  rw [← List.lex_lt]
  induction a generalizing b with
  | nil =>
    cases b with
    | nil => simp [Prerelease.compareChars]
    | cons y b => simp [Prerelease.compareChars]
  | cons x a ih =>
    cases b with
    | nil => simp [Prerelease.compareChars]
    | cons y b =>
      rw [Prerelease.compareChars, Ordering.then_eq_lt, List.cons_lex_cons_iff, ih,
        Nat.compare_eq_lt, Nat.compare_eq_eq, Char.toNat_inj]
      rfl

theorem compareChars_eq_eq (a b : List Char) : Prerelease.compareChars a b = .eq ↔ a = b := by
  induction a generalizing b with
  | nil => cases b <;> simp [Prerelease.compareChars]
  | cons x a ih =>
    cases b with
    | nil => simp [Prerelease.compareChars]
    | cons y b =>
      rw [Prerelease.compareChars, Ordering.then_eq_eq, ih, Nat.compare_eq_eq, Char.toNat_inj,
        List.cons.injEq]

theorem not_before_self (id : List Char) : ¬ Before id id := by
  rintro (⟨-, -, hlt⟩ | ⟨hnumber, hword⟩ | ⟨-, -, hlt⟩)
  · exact Nat.lt_irrefl _ hlt
  · exact hword hnumber
  · exact List.lt_irrefl _ hlt

/-- On plain identifiers, reading them and looking at them come to the same. -/
theorem compareIdentifiers_plain {a b : List Char} (ha : IsWellFormed a) (hb : IsWellFormed b)
    (hpa : IsPlain a) (hpb : IsPlain b) :
    (Prerelease.compareIdentifiers a b = .lt ↔ Before a b) ∧
      (Prerelease.compareIdentifiers a b = .eq ↔ a = b) := by
  unfold Prerelease.compareIdentifiers
  rw [readInt64?_plain ha hpa, readInt64?_plain hb hpb]
  by_cases hna : IsNumber a <;> by_cases hnb : IsNumber b
  · rw [if_pos hna, if_pos hnb]
    simp only
    rw [Std.compare_eq_lt, Std.LawfulEqCmp.compare_eq_iff_eq, Int.ofNat_lt, Int.natCast_inj,
      value_inj ha hb hna hnb]
    refine ⟨⟨.numbers hna hnb, ?_⟩, Iff.rfl⟩
    rintro (⟨-, -, hlt⟩ | ⟨-, hword⟩ | ⟨hword, -, -⟩)
    · exact hlt
    · exact absurd hnb hword
    · exact absurd hna hword
  · rw [if_pos hna, if_neg hnb]
    refine ⟨iff_of_true rfl (.number_word hna hnb), iff_of_false Ordering.noConfusion ?_⟩
    rintro rfl
    exact hnb hna
  · rw [if_neg hna, if_pos hnb]
    simp only
    refine ⟨iff_of_false (by decide) ?_, iff_of_false (by decide) ?_⟩
    · rintro (⟨hnumber, -, -⟩ | ⟨hnumber, -⟩ | ⟨-, hword, -⟩)
      · exact hna hnumber
      · exact hna hnumber
      · exact hword hnb
    · rintro rfl
      exact hna hnb
  · rw [if_neg hna, if_neg hnb]
    refine ⟨(compareChars_eq_lt a b).trans ⟨.words hna hnb, ?_⟩, compareChars_eq_eq a b⟩
    rintro (⟨hnumber, -, -⟩ | ⟨hnumber, -⟩ | ⟨-, -, hlt⟩)
    · exact absurd hnumber hna
    · exact absurd hnumber hna
    · exact hlt

/-- At the first place where two lists of identifiers differ, both are plain. -/
inductive PlainApart : List (List Char) → List (List Char) → Prop where
  | nil_left (bs : List (List Char)) : PlainApart [] bs
  | nil_right (as : List (List Char)) : PlainApart as []
  | same {as bs : List (List Char)} (id : List Char) :
    PlainApart as bs → PlainApart (id :: as) (id :: bs)
  | apart {a b : List Char} (as bs : List (List Char)) :
    a ≠ b → IsPlain a → IsPlain b → PlainApart (a :: as) (b :: bs)

theorem PlainApart.symm {as bs : List (List Char)} (h : PlainApart as bs) : PlainApart bs as := by
  induction h with
  | nil_left bs => exact .nil_right bs
  | nil_right as => exact .nil_left as
  | same id _ ih => exact .same id ih
  | apart as bs hne ha hb => exact .apart bs as hne.symm hb ha

end Identifier

open Identifier

/-! ### Prereleases -/

namespace Prerelease

/-- The first difference decides, for the reader as for precedence. -/
theorem compareLists_plain {as bs : List (List Char)} (h : PlainApart as bs)
    (ha : ∀ id ∈ as, IsWellFormed id) (hb : ∀ id ∈ bs, IsWellFormed id) :
    (compareLists as bs = .lt ↔ List.Lex Before as bs) ∧ (compareLists as bs = .eq ↔ as = bs) := by
  induction h with
  | nil_left bs => cases bs <;> simp [compareLists]
  | nil_right as => cases as <;> simp [compareLists]
  | same id _ ih =>
    have hself : compareIdentifiers id id = .eq := Std.ReflCmp.compare_self
    rw [List.forall_mem_cons] at ha hb
    obtain ⟨hlt, heq⟩ := ih ha.2 hb.2
    rw [compareLists, hself, List.cons_lex_cons_iff, or_iff_right (not_before_self id),
      and_iff_right rfl, List.cons.injEq, and_iff_right rfl]
    exact ⟨hlt, heq⟩
  | apart as bs hne hpa hpb =>
    rw [List.forall_mem_cons] at ha hb
    obtain ⟨hlt, heq⟩ := compareIdentifiers_plain ha.1 hb.1 hpa hpb
    rw [compareLists, Ordering.then_eq_lt, Ordering.then_eq_eq, List.cons_lex_cons_iff,
      List.cons.injEq, hlt, heq]
    simp only [hne, false_and, or_false, and_self]

/-- A prerelease made of its identifiers, with dots between them. -/
def ofIdentifiers (ids : List (List Char)) : Prerelease :=
  ⟨".".intercalate (ids.map String.ofList)⟩

theorem parts_eq (cs : List Char) : parts cs = cs.splitOn '.' := by
  induction cs with
  | nil => rfl
  | cons c cs ih =>
    have hcons : (c :: cs).splitOn '.' = if c == '.' then [] :: cs.splitOn '.'
        else (cs.splitOn '.').modifyHead (c :: ·) := List.splitOnP_cons_eq_if_modifyHead c cs
    rw [parts, ih, hcons]
    cases hparts : cs.splitOn '.' with
    | nil => exact absurd hparts (List.splitOnP_ne_nil _ _)
    | cons part more => by_cases hc : c = '.' <;> simp [hc]

theorem identifiers_ofIdentifiers {ids : List (List Char)} (hne : ids ≠ [])
    (h : ∀ id ∈ ids, IsWellFormed id) : (ofIdentifiers ids).identifiers = ids := by
  have htext : (ofIdentifiers ids).text.toList = ['.'].intercalate ids := by
    simp [ofIdentifiers, String.toList_intercalate, Function.comp_def]
  rw [identifiers, parts_eq, htext,
    List.splitOn_intercalate '.' (fun id hid => (h id hid).not_mem_dot) hne, List.filter_eq_self]
  intro id hid
  rw [List.isEmpty_eq_false_iff.2 (h id hid).nonempty]
  rfl

theorem order_ofIdentifiers {as bs : List (List Char)} (has : as ≠ []) (hbs : bs ≠ [])
    (ha : ∀ id ∈ as, IsWellFormed id) (hb : ∀ id ∈ bs, IsWellFormed id) :
    (ofIdentifiers as).order (ofIdentifiers bs) = compareLists as bs := by
  have hstable {ids : List (List Char)} (hne : ids ≠ []) (h : ∀ id ∈ ids, IsWellFormed id) :
      (ofIdentifiers ids).isStable = false := by
    rw [isStable, identifiers_ofIdentifiers hne h, List.isEmpty_eq_false_iff]
    exact hne
  rw [order, hstable has ha, hstable hbs hb, identifiers_ofIdentifiers has ha,
    identifiers_ofIdentifiers hbs hb]

end Prerelease

/-- **The order of prereleases is precedence**, but for numbers that the reader does not see or
sees where there are none. Of any two prereleases made of well-formed identifiers, the order says
which comes first as Semantic Versioning does, if both have plain identifiers where they first
differ. -/
theorem order_precedence (as bs : List (List Char)) (has : as ≠ []) (hbs : bs ≠ [])
    (ha : ∀ id ∈ as, IsWellFormed id) (hb : ∀ id ∈ bs, IsWellFormed id)
    (hplain : PlainApart as bs) :
    let a := Prerelease.ofIdentifiers as
    let b := Prerelease.ofIdentifiers bs
    (a.order b = .lt ↔ List.Lex Before as bs) ∧ (a.order b = .eq ↔ as = bs) ∧
      (a.order b = .gt ↔ List.Lex Before bs as) := by
  obtain ⟨hlt, heq⟩ := Prerelease.compareLists_plain hplain ha hb
  obtain ⟨hgt, -⟩ := Prerelease.compareLists_plain hplain.symm hb ha
  intro a b
  rw [Prerelease.order_ofIdentifiers has hbs ha hb]
  refine ⟨hlt, heq, ?_⟩
  rw [Prerelease.compareLists_swap, Ordering.swap_eq_gt]
  exact hgt

/-- Words with hyphens, numbers, and a number too long for 64 bits that both have. -/
theorem order_precedence_mixed :
    let as := ["20240131235959000000".toList, "rc-1".toList, "9".toList]
    let bs := ["20240131235959000000".toList, "rc-1".toList, "10".toList, "-".toList]
    let a := Prerelease.ofIdentifiers as
    let b := Prerelease.ofIdentifiers bs
    as ≠ [] ∧ bs ≠ [] ∧ (∀ id ∈ as, IsWellFormed id) ∧ (∀ id ∈ bs, IsWellFormed id) ∧
      PlainApart as bs ∧
      (a.order b = .lt ↔ List.Lex Before as bs) ∧ (a.order b = .eq ↔ as = bs) ∧
      (a.order b = .gt ↔ List.Lex Before bs as) := by
  intro as bs a b
  have has : as ≠ [] := List.cons_ne_nil _ _
  have hbs : bs ≠ [] := List.cons_ne_nil _ _
  have ha : ∀ id ∈ as, IsWellFormed id := by decide +kernel
  have hb : ∀ id ∈ bs, IsWellFormed id := by decide +kernel
  have hplain : PlainApart as bs :=
    .same _ (.same _ (.apart _ _ (by decide) (by decide +kernel) (by decide +kernel)))
  exact ⟨has, hbs, ha, hb, hplain, order_precedence as bs has hbs ha hb hplain⟩

/-- A word is taken for a negative number and put before a number; of two long numbers the
larger one comes first, and a long number comes behind a word. -/
theorem order_astray :
    (∀ id ∈ ["1".toList, "-5".toList, "9999999999999999999".toList, "10000000000000000000".toList,
      "-".toList], IsWellFormed id) ∧
    (List.Lex Before ["1".toList] ["-5".toList] ∧
      (Prerelease.ofIdentifiers ["1".toList]).order (.ofIdentifiers ["-5".toList]) = .gt) ∧
    (List.Lex Before ["9999999999999999999".toList] ["10000000000000000000".toList] ∧
      (Prerelease.ofIdentifiers ["9999999999999999999".toList]).order
        (.ofIdentifiers ["10000000000000000000".toList]) = .gt) ∧
    List.Lex Before ["9999999999999999999".toList] ["-".toList] ∧
      (Prerelease.ofIdentifiers ["9999999999999999999".toList]).order
        (.ofIdentifiers ["-".toList]) = .gt := by
  refine ⟨by decide +kernel, ⟨.rel (.number_word (by decide) (by decide)), by decide +kernel⟩,
    ⟨.rel (.numbers (by decide) (by decide) (by decide +kernel)), by decide +kernel⟩,
    .rel (.number_word (by decide) (by decide)), by decide +kernel⟩

end Sift.Version
