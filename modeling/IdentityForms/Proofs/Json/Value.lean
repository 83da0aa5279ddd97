import IdentityForms.Json.Basic
import Mathlib.Algebra.Field.Rat
import Mathlib.Algebra.GroupWithZero.Units.Basic
import Mathlib.Algebra.Order.Ring.Rat
import Mathlib.Tactic.NormNum
import Mathlib.Tactic.Positivity
import Mathlib.Tactic.Ring

/-! The rational numbers that the numbers of a document are, in whichever way they are held. -/
namespace IdentityForms

namespace Binary64

def sign (x : Binary64) : Int := if x.negative then -1 else 1

def value (x : Binary64) : ℚ := x.sign * x.significand * 2 ^ x.exponent

variable {x : Binary64} {n : Int} {k : Nat}

theorem sign_mul_sign (x : Binary64) : x.sign * x.sign = 1 := by
  unfold sign
  split <;> rfl

theorem toInt?_of_nonneg (hk : x.exponent = k) :
    x.toInt? = some (x.sign * x.significand * 2 ^ k) := by
  unfold toInt? sign
  rw [if_pos (by omega), hk, Int.toNat_natCast, Nat.pow_eq]
  cases x.negative <;> simp

theorem value_of_nonneg (hk : x.exponent = k) :
    x.value = (x.sign * x.significand * 2 ^ k : Int) := by
  unfold value
  rw [hk, zpow_natCast]
  push_cast
  ring

theorem toInt?_of_neg (hk : x.exponent = -k) (hpos : 0 < k) : x.toInt? =
    if 2 ^ k ∣ x.significand then some (x.sign * (x.significand / 2 ^ k : Nat)) else none := by
  have hexponent : (-x.exponent).toNat = k := by omega
  unfold toInt? sign
  rw [if_neg (by omega), hexponent, Nat.pow_eq]
  simp only [Nat.dvd_iff_mod_eq_zero]
  cases x.negative <;> simp

theorem value_eq_of_neg (hk : x.exponent = -k) :
    x.value = n ↔ x.sign * x.significand = n * 2 ^ k := by
  have hpow : (2 : ℚ) ^ k ≠ 0 := by positivity
  unfold value
  rw [hk, zpow_neg, zpow_natCast, mul_inv_eq_iff_eq_mul₀ hpow]
  exact_mod_cast Iff.rfl

/-- A double is turned into the integer that it is, if it is one. -/
theorem toInt?_eq_some : x.toInt? = some n ↔ x.value = n := by
  rcases Int.eq_nat_or_neg x.exponent with ⟨k, hk | hk⟩
  · rw [toInt?_of_nonneg hk, value_of_nonneg hk, Option.some.injEq, Int.cast_inj]
  rcases Nat.eq_zero_or_pos k with rfl | hpos
  · rw [toInt?_of_nonneg (k := 0) hk, value_of_nonneg (k := 0) hk, Option.some.injEq, Int.cast_inj]
  have hpow : (2 : Int) ^ k ≠ 0 := by positivity
  rw [toInt?_of_neg hk hpos, value_eq_of_neg hk]
  split
  · next hdvd =>
    obtain ⟨whole, hwhole⟩ := hdvd
    rw [hwhole, Nat.mul_div_cancel_left _ (by positivity), Option.some.injEq, Nat.cast_mul,
      mul_comm ((2 ^ k : Nat) : Int), ← mul_assoc, Nat.cast_pow, Nat.cast_ofNat, mul_left_inj' hpow]
  · next hdvd =>
    -- The sign is its own inverse, so an integer would give the significand back.
    refine iff_of_false (by simp) fun h => hdvd ?_
    have hsignificand : (x.significand : Int) = 2 ^ k * (x.sign * n) := by
      calc (x.significand : Int) = x.sign * x.sign * x.significand := by
            rw [sign_mul_sign, one_mul]
        _ = x.sign * (n * 2 ^ k) := by rw [mul_assoc, h]
        _ = 2 ^ k * (x.sign * n) := by ring
    exact_mod_cast Dvd.intro _ hsignificand.symm

end Binary64

/-- The number that is meant, exactly. -/
def Json.Number.value : Json.Number → ℚ
  | integer n => n
  | binary x => x.value

end IdentityForms
