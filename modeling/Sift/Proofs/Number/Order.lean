import Mathlib.Algebra.Order.Field.Basic
import Mathlib.Algebra.Order.Field.Rat
import Mathlib.Order.Compare
import Mathlib.Order.WithBot
import Sift.Number.Binary64

/-! The order of floating-point numbers.

A finite number is a fraction, and the infinite ones lie on both sides of all of these. So a number
has a rank in one total order (`rank?`), unless it is none, and numbers are compared by their ranks
(`compare?_eq`). Two of them are the same if they have one rank (`same_iff`), whatever mantissas and
exponents they are written with. -/
namespace Sift.Number.Binary64

/-- The fraction that a finite number is. -/
def fraction (negative : Bool) (mantissa : Nat) (exponent : Int) : ℚ :=
  (if negative then -(mantissa : ℚ) else mantissa) * 2 ^ exponent

/-- The place of a number among all numbers. -/
def rank? : Binary64 → Option (WithBot (WithTop ℚ))
  | .finite negative mantissa exponent => some (fraction negative mantissa exponent : WithTop ℚ)
  | .infinite negative => some (if negative then ⊥ else (⊤ : WithTop ℚ))
  | .nan => none

/-- A unit at or below the number's own divides it. -/
theorem fraction_eq_inUnits {negative : Bool} {mantissa : Nat} {exponent unit : Int}
    (h : unit ≤ exponent) :
    fraction negative mantissa exponent = inUnits negative mantissa exponent unit * 2 ^ unit := by
  have hpower : (2 : ℚ) ^ exponent = 2 ^ (exponent - unit).toNat * 2 ^ unit := by
    rw [← zpow_natCast, ← zpow_add₀ (by norm_num), Int.toNat_of_nonneg (by omega)]
    congr 1
    omega
  rw [fraction, inUnits, hpower, Nat.shiftLeft_eq]
  cases negative with
  | false => simp [mul_assoc]
  | true => simp [mul_assoc]

theorem compare_finite (s t : Bool) (m n : Nat) (e f : Int) :
    compare (inUnits s m e (min e f)) (inUnits t n f (min e f)) =
      compare (fraction s m e) (fraction t n f) := by
  have hmono : StrictMono fun z : Int => (z : ℚ) * 2 ^ min e f := by
    intro a b hab
    have hcast : (a : ℚ) < b := Int.cast_lt.2 hab
    exact mul_lt_mul_of_pos_right hcast (zpow_pos (by norm_num) _)
  rw [fraction_eq_inUnits (min_le_left e f), fraction_eq_inUnits (min_le_right e f),
    ← cmp_eq_compare, ← cmp_eq_compare]
  exact (hmono.cmp_map_eq _ _).symm

theorem compare_coe (q r : ℚ) :
    compare ((q : WithTop ℚ) : WithBot (WithTop ℚ)) ((r : WithTop ℚ) : WithBot (WithTop ℚ)) =
      compare q r := by
  rw [← cmp_eq_compare, ← cmp_eq_compare]
  exact (WithBot.coe_strictMono.comp WithTop.coe_strictMono).cmp_map_eq q r

/-- Numbers are compared by their ranks. -/
theorem compare?_eq (a b : Binary64) :
    a.compare? b = a.rank?.bind fun r => b.rank?.map fun s => compare r s := by
  cases a with
  | nan => cases b <;> rfl
  | infinite s =>
    cases b with
    | nan => rfl
    | infinite t => cases s <;> cases t <;> rfl
    | finite => cases s <;> rfl
  | finite s m e =>
    cases b with
    | nan => rfl
    | infinite t => cases t <;> rfl
    | finite t n f =>
      show some (compare _ _) = some (compare _ _)
      rw [compare_coe, compare_finite]

/-- Two numbers are the same if they have the same rank. -/
theorem same_iff {a b : Binary64} : a.same b = true ↔ ∃ r, a.rank? = some r ∧ b.rank? = some r := by
  rw [same, compare?_eq, beq_iff_eq, Option.bind_eq_some_iff]
  constructor
  · intro h
    obtain ⟨r, hr, h⟩ := h
    obtain ⟨s, hs, h⟩ := Option.map_eq_some_iff.1 h
    obtain rfl := compare_eq_iff_eq.1 h
    exact ⟨r, hr, hs⟩
  · intro h
    obtain ⟨r, hr, hs⟩ := h
    exact ⟨r, hr, Option.map_eq_some_iff.2 ⟨r, hs, compare_eq_iff_eq.2 rfl⟩⟩

theorem same_comm (a b : Binary64) : a.same b = b.same a := by
  rw [Bool.eq_iff_iff, same_iff, same_iff]
  exact exists_congr fun _ => and_comm

/-- An integer is never read as no number. -/
theorem rank?_ofInt (n : Int) : ∃ r, (ofInt n).rank? = some r := by
  unfold ofInt ofRatio
  dsimp only
  split
  · exact ⟨_, rfl⟩
  · split
    · split <;> exact ⟨_, rfl⟩
    · split <;> exact ⟨_, rfl⟩

end Sift.Number.Binary64
