import IdentityForms.Proofs.Json.Value
import Mathlib.Algebra.Order.Field.Power
import Mathlib.Tactic.FieldSimp
import Mathlib.Tactic.Linarith

/-! Arithmetic that rounds. A result stands on the same side of each double as the exact result, so
an exact result that is a double is kept. It misses the exact one by half a unit of 53 bits at
most. -/
namespace IdentityForms.Binary64

variable {num den k : Nat} {scale : Int} {x y z : Binary64} {q r : ℚ}

theorem le_roundQuotient (hden : 0 < den) (h : (k : ℚ) ≤ num / den) :
    k ≤ roundQuotient num den := by
  have hnum : k * den ≤ num := by
    rw [le_div_iff₀ (by exact_mod_cast hden)] at h
    exact_mod_cast h
  have hquotient : k ≤ num / den := (Nat.le_div_iff_mul_le hden).mpr hnum
  unfold roundQuotient
  dsimp only
  split
  · exact hquotient
  · exact Nat.le_succ_of_le hquotient

theorem roundQuotient_le (hden : 0 < den) (h : (num : ℚ) / den ≤ k) :
    roundQuotient num den ≤ k := by
  have hnum : num ≤ k * den := by
    rw [div_le_iff₀ (by exact_mod_cast hden)] at h
    exact_mod_cast h
  have hquotient : num / den ≤ k := Nat.div_le_of_le_mul (Nat.mul_comm k den ▸ hnum)
  unfold roundQuotient
  dsimp only
  split
  · exact hquotient
  · next hup =>
    -- What is rounded up leaves a remainder, so the quotient is not k itself.
    have hdivision := Nat.div_add_mod num den
    refine Nat.lt_of_le_of_ne hquotient fun hsame => ?_
    rw [hsame, Nat.mul_comm] at hdivision
    omega

theorem abs_roundQuotient_sub_le (hden : 0 < den) :
    |(roundQuotient num den : ℚ) - num / den| ≤ 1 / 2 := by
  have hpos : (0 : ℚ) < den := by exact_mod_cast hden
  have hdivision := Nat.div_add_mod num den
  have hremainder := Nat.mod_lt num hden
  have hbounds : 2 * (roundQuotient num den * den) ≤ 2 * num + den ∧
      2 * num ≤ 2 * (roundQuotient num den * den) + den := by
    rw [Nat.mul_comm den] at hdivision
    unfold roundQuotient
    dsimp only
    split
    · omega
    · rw [Nat.add_mul]
      omega
  obtain ⟨habove, hbelow⟩ := hbounds
  have habove : 2 * ((roundQuotient num den : ℚ) * den) ≤ 2 * num + den := by exact_mod_cast habove
  have hbelow : 2 * (num : ℚ) ≤ 2 * (roundQuotient num den * den) + den := by exact_mod_cast hbelow
  have hnum : (num : ℚ) = num / den * den := (div_mul_cancel₀ _ hpos.ne').symm
  generalize (num : ℚ) / den = quotient at hnum ⊢
  rw [hnum] at habove hbelow
  rw [abs_le]
  constructor
  · nlinarith
  · nlinarith

theorem small_iff : (if 0 ≤ scale then num < den * 2 ^ scale.toNat
    else num * 2 ^ (-scale).toNat < den) ↔ (num : ℚ) < den * 2 ^ scale := by
  by_cases hscale : 0 ≤ scale
  · obtain ⟨k, rfl⟩ := Int.eq_ofNat_of_zero_le hscale
    rw [if_pos hscale, Int.toNat_natCast, zpow_natCast]
    exact_mod_cast Iff.rfl
  · obtain ⟨k, rfl⟩ : ∃ k : Nat, scale = -k := Int.exists_eq_neg_ofNat (by omega)
    rw [if_neg hscale, neg_neg, Int.toNat_natCast, zpow_neg, zpow_natCast, ← div_eq_mul_inv,
      lt_div_iff₀ (by positivity)]
    exact_mod_cast Iff.rfl

/-- Above the least exponent a quotient has a significand of 53 bits. -/
theorem two_zpow_mul_le (hnum : 0 < num) (h : exponentFor num den ≠ -1074) :
    (2 : ℚ) ^ (52 + exponentFor num den) * den ≤ num := by
  have hden : (den : ℚ) ≤ 2 ^ (den.log2 + 1 : Int) := by
    exact_mod_cast (Nat.lt_log2_self (n := den)).le
  have hlog : (2 : ℚ) ^ (num.log2 : Int) ≤ num := by
    exact_mod_cast Nat.log2_self_le (Nat.ne_of_gt hnum)
  unfold exponentFor at h ⊢
  simp only [Nat.pow_eq, small_iff] at h ⊢
  generalize hscale : (num.log2 - den.log2 : Int) = scale at h ⊢
  by_cases hsmall : (num : ℚ) < den * 2 ^ scale
  · rw [if_pos hsmall] at h ⊢
    rw [max_eq_left (by omega)]
    calc (2 : ℚ) ^ (52 + (scale - 53)) * den
        ≤ 2 ^ (52 + (scale - 53)) * 2 ^ (den.log2 + 1 : Int) := by gcongr
      _ = 2 ^ (num.log2 : Int) := by
        rw [← zpow_add₀ two_ne_zero]
        congr 1
        omega
      _ ≤ num := hlog
  · rw [if_neg hsmall] at h ⊢
    rw [max_eq_left (by omega), add_sub_cancel, mul_comm]
    exact not_lt.mp hsmall

theorem le_two_zpow_mul (hden : 0 < den) :
    (num : ℚ) ≤ 2 ^ (53 + exponentFor num den) * den := by
  have hden : (2 : ℚ) ^ (den.log2 : Int) ≤ den := by
    exact_mod_cast Nat.log2_self_le (Nat.ne_of_gt hden)
  have hnum : (num : ℚ) ≤ 2 ^ (num.log2 + 1 : Int) := by
    exact_mod_cast (Nat.lt_log2_self (n := num)).le
  unfold exponentFor
  simp only [Nat.pow_eq, small_iff]
  generalize hscale : (num.log2 - den.log2 : Int) = scale
  by_cases hsmall : (num : ℚ) < den * 2 ^ scale
  · rw [if_pos hsmall]
    calc (num : ℚ) ≤ 2 ^ scale * den := (mul_comm (den : ℚ) _ ▸ hsmall).le
      _ ≤ 2 ^ (53 + max (scale - 53) (-1074)) * den := by
        gcongr
        · norm_num
        · omega
  · rw [if_neg hsmall]
    calc (num : ℚ) ≤ 2 ^ (num.log2 + 1 : Int) := hnum
      _ = 2 ^ (scale + 1) * 2 ^ (den.log2 : Int) := by
        rw [← zpow_add₀ two_ne_zero]
        congr 1
        omega
      _ ≤ 2 ^ (53 + max (scale - 52) (-1074)) * den :=
        mul_le_mul (zpow_le_zpow_right₀ one_le_two (by omega)) hden (by positivity) (by positivity)

/-- Whether a number is made of 53 adjacent binary places at most, none below the least one of the
format. -/
def Fits (r : ℚ) : Prop := ∃ (m : Nat) (e : Int), m ≤ 2 ^ 53 ∧ -1074 ≤ e ∧ r = m * 2 ^ e

theorem fits_natCast {n : Nat} (h : n ≤ 2 ^ 53) : Fits n := ⟨n, 0, h, by decide, by simp⟩

theorem fits_zero : Fits 0 := by exact_mod_cast fits_natCast (n := 0) (by decide)

/-- Above 52 bits nothing but whole numbers fits. -/
theorem Fits.exists_natCast (h : Fits r) (hr : 2 ^ 52 ≤ r) : ∃ m : Nat, r = m := by
  obtain ⟨m, e, hm, -, rfl⟩ := h
  rcases le_or_gt 0 e with hle | hlt
  · obtain ⟨k, rfl⟩ := Int.eq_ofNat_of_zero_le hle
    exact ⟨m * 2 ^ k, by push_cast; rfl⟩
  · have hm : (m : ℚ) ≤ 2 ^ 53 := by exact_mod_cast hm
    refine ⟨2 ^ 52, le_antisymm ?_ (by exact_mod_cast hr)⟩
    calc (m : ℚ) * 2 ^ e ≤ 2 ^ 53 * 2 ^ (-1 : Int) := by
          gcongr
          · norm_num
          · omega
      _ = (2 ^ 52 : Nat) := by norm_num

/-- A number that fits is a multiple of a given unit, or it has fewer places than are above it. -/
theorem Fits.cases (h : Fits r) (unit : Int) :
    (∃ m : Nat, r = m * 2 ^ unit) ∨ unit ≠ -1074 ∧ r ≤ 2 ^ 52 * 2 ^ unit := by
  obtain ⟨m, e, hm, he, rfl⟩ := h
  rcases le_or_gt unit e with hle | hlt
  · obtain ⟨k, rfl⟩ := Int.le.dest hle
    refine .inl ⟨m * 2 ^ k, ?_⟩
    rw [zpow_add₀ two_ne_zero, zpow_natCast]
    push_cast
    ring
  · refine .inr ⟨by omega, ?_⟩
    have hm : (m : ℚ) ≤ 2 ^ 53 := by exact_mod_cast hm
    calc (m : ℚ) * 2 ^ e ≤ 2 ^ 53 * 2 ^ (unit - 1) := by
          gcongr
          · norm_num
          · omega
      _ = 2 ^ 52 * 2 ^ unit := by
        rw [zpow_sub₀ two_ne_zero]
        ring

section

variable {n d : Nat} {unit : Int} (hd : 0 < d) (hlarge : unit ≠ -1074 → (2 : ℚ) ^ 52 ≤ n / d)
include hd hlarge

theorem le_roundQuotient_mul (hr : Fits r) (hle : r ≤ n / d * 2 ^ unit) :
    r ≤ roundQuotient n d * 2 ^ unit := by
  rcases hr.cases unit with ⟨m, rfl⟩ | ⟨hne, hsmall⟩
  · have hm : (m : ℚ) ≤ n / d := le_of_mul_le_mul_right hle (by positivity)
    gcongr
    exact le_roundQuotient hd hm
  · have hbits : 2 ^ 52 ≤ roundQuotient n d := le_roundQuotient hd (by exact_mod_cast hlarge hne)
    calc r ≤ 2 ^ 52 * 2 ^ unit := hsmall
      _ ≤ roundQuotient n d * 2 ^ unit := by
        gcongr
        exact_mod_cast hbits

theorem roundQuotient_mul_le (hr : Fits r) (hle : n / d * 2 ^ unit ≤ r) :
    roundQuotient n d * 2 ^ unit ≤ r := by
  rcases hr.cases unit with ⟨m, rfl⟩ | ⟨hne, hsmall⟩
  · have hm : (n : ℚ) / d ≤ m := le_of_mul_le_mul_right hle (by positivity)
    gcongr
    exact roundQuotient_le hd hm
  · -- The quotient has 53 bits and is below r, which has no more than 53 bits either.
    have hbits : roundQuotient n d ≤ 2 ^ 52 := by
      apply roundQuotient_le hd
      exact_mod_cast le_of_mul_le_mul_right (hle.trans hsmall) (by positivity)
    calc (roundQuotient n d : ℚ) * 2 ^ unit ≤ 2 ^ 52 * 2 ^ unit := by
          gcongr
          exact_mod_cast hbits
      _ ≤ n / d * 2 ^ unit := by
        gcongr
        exact hlarge hne
      _ ≤ r := hle

theorem abs_roundQuotient_mul_sub_le (hone : 1 ≤ (n : ℚ) / d * 2 ^ unit) :
    |roundQuotient n d * 2 ^ unit - (n : ℚ) / d * 2 ^ unit| ≤ n / d * 2 ^ unit / 2 ^ 53 := by
  have hpos : (0 : ℚ) < 2 ^ unit := by positivity
  have hunit : (2 : ℚ) ^ unit ≤ n / d * 2 ^ unit / 2 ^ 52 := by
    by_cases hne : unit = -1074
    · calc (2 : ℚ) ^ unit ≤ 2 ^ (-52 : Int) := zpow_le_zpow_right₀ one_le_two (by omega)
        _ = 1 / 2 ^ 52 := by norm_num
        _ ≤ n / d * 2 ^ unit / 2 ^ 52 := by gcongr
    · rw [le_div_iff₀ (by positivity), mul_comm]
      gcongr
      exact hlarge hne
  calc |roundQuotient n d * 2 ^ unit - (n : ℚ) / d * 2 ^ unit|
      = |(roundQuotient n d : ℚ) - n / d| * 2 ^ unit := by rw [← sub_mul, abs_mul, abs_of_pos hpos]
    _ ≤ 1 / 2 * 2 ^ unit := by
      gcongr
      exact abs_roundQuotient_sub_le hd
    _ ≤ 1 / 2 * (n / d * 2 ^ unit / 2 ^ 52) := by gcongr
    _ = n / d * 2 ^ unit / 2 ^ 53 := by ring

end

/-- What a number is rounded to. -/
structure Rounds (q : ℚ) (x : Binary64) : Prop where
  unsigned : x.negative = false
  fits : Fits x.value
  le_value : ∀ {r : ℚ}, Fits r → r ≤ q → r ≤ x.value
  value_le : ∀ {r : ℚ}, Fits r → q ≤ r → x.value ≤ r
  error : 1 ≤ q → |x.value - q| ≤ q / 2 ^ 53

/-- A number that fits is kept. -/
theorem Rounds.value_eq (h : Rounds q x) (hq : Fits q) : x.value = q :=
  le_antisymm (h.value_le hq le_rfl) (h.le_value hq le_rfl)

theorem value_of_unsigned (h : x.negative = false) :
    x.value = x.significand * 2 ^ x.exponent := by
  simp [value, sign, h]

theorem value_signed (h : x.negative = false) (negative : Bool) :
    { x with negative }.value = (if negative then -1 else 1) * x.value := by
  rw [value_of_unsigned h]
  unfold value sign
  cases negative <;> simp

theorem exists_of_ofQuotient? {negative : Bool} (hden : 0 < den)
    (h : ofQuotient? negative num den = some x) : ∃ n d : Nat, 0 < d ∧
      (n : ℚ) / d * 2 ^ exponentFor num den = num / den ∧
      x = ⟨negative, roundQuotient n d, exponentFor num den⟩ := by
  have hpos : (0 : ℚ) < den := by exact_mod_cast hden
  unfold ofQuotient? at h
  dsimp only at h
  by_cases hexponent : 0 ≤ exponentFor num den
  · rw [if_pos hexponent, Option.ite_none_right_eq_some] at h
    obtain ⟨k, hk⟩ := Int.eq_ofNat_of_zero_le hexponent
    refine ⟨num, den * 2 ^ k, by positivity, ?_, ?_⟩
    · rw [hk, zpow_natCast]
      push_cast
      field_simp
    · rw [← Option.some.inj h.2, hk, Int.toNat_natCast, Nat.pow_eq]
  · rw [if_neg hexponent] at h
    obtain ⟨k, hk⟩ : ∃ k : Nat, exponentFor num den = -k := Int.exists_eq_neg_ofNat (by omega)
    refine ⟨num * 2 ^ k, den, hden, ?_, ?_⟩
    · rw [hk, zpow_neg, zpow_natCast]
      push_cast
      field_simp
    · rw [← Option.some.inj h, hk, neg_neg, Int.toNat_natCast, Nat.pow_eq]

theorem rounds_of_ofQuotient? (hnum : 0 < num) (hden : 0 < den)
    (h : ofQuotient? false num den = some x) : Rounds (num / den) x := by
  have hlarge : exponentFor num den ≠ -1074 →
      (2 : ℚ) ^ (52 + exponentFor num den) * den ≤ num := two_zpow_mul_le hnum
  have hsmall : (num : ℚ) ≤ 2 ^ (53 + exponentFor num den) * den := le_two_zpow_mul hden
  have hunit : -1074 ≤ exponentFor num den := le_max_right _ _
  obtain ⟨n, d, hd, hquotient, rfl⟩ := exists_of_ofQuotient? hden h
  generalize exponentFor num den = unit at hlarge hsmall hunit hquotient
  replace hlarge : unit ≠ -1074 → (2 : ℚ) ^ 52 ≤ n / d := by
    intro hne
    have hlarge := hlarge hne
    rw [← le_div_iff₀ (by exact_mod_cast hden), ← hquotient, zpow_add₀ two_ne_zero] at hlarge
    exact_mod_cast le_of_mul_le_mul_right hlarge (by positivity)
  rw [← div_le_iff₀ (by exact_mod_cast hden), ← hquotient, zpow_add₀ two_ne_zero] at hsmall
  replace hsmall := le_of_mul_le_mul_right hsmall (by positivity)
  rw [← hquotient]
  constructor
  case unsigned => rfl
  all_goals rw [value_of_unsigned rfl]
  case fits => exact ⟨roundQuotient n d, unit, roundQuotient_le hd (by exact_mod_cast hsmall),
    hunit, rfl⟩
  case le_value => exact le_roundQuotient_mul hd hlarge
  case value_le => exact roundQuotient_mul_le hd hlarge
  case error => exact abs_roundQuotient_mul_sub_le hd hlarge

theorem rounds_of_ofScaled? (hden : 0 < den) (h : ofScaled? false num den scale = some x) :
    Rounds (num / den * 2 ^ scale) x := by
  have hpos : (0 : ℚ) < den := by exact_mod_cast hden
  unfold ofScaled? at h
  simp only [Nat.pow_eq] at h
  split_ifs at h with hzero hscale
  · obtain rfl := Option.some.inj h
    have hvalue : value ⟨false, 0, 0⟩ = 0 := by simp [value]
    rw [hzero, Nat.cast_zero, zero_div, zero_mul]
    exact ⟨rfl, hvalue ▸ fits_zero, fun _ hle => hvalue ▸ hle, fun _ hle => hvalue ▸ hle,
      fun hone => absurd hone (by norm_num)⟩
  · obtain ⟨k, rfl⟩ := Int.eq_ofNat_of_zero_le hscale
    have hrounds := rounds_of_ofQuotient? (by positivity) hden h
    rw [Int.toNat_natCast] at hrounds
    convert hrounds using 1
    rw [zpow_natCast]
    push_cast
    ring
  · obtain ⟨k, rfl⟩ : ∃ k : Nat, scale = -k := Int.exists_eq_neg_ofNat (by omega)
    have hrounds := rounds_of_ofQuotient? (Nat.pos_of_ne_zero hzero) (by positivity) h
    rw [neg_neg, Int.toNat_natCast] at hrounds
    convert hrounds using 1
    rw [zpow_neg, zpow_natCast]
    push_cast
    field_simp

theorem rounds_of_ofNat? {n : Nat} (h : ofNat? n = some x) : Rounds n x := by
  have hrounds := rounds_of_ofScaled? Nat.one_pos h
  rwa [Nat.cast_one, div_one, zpow_zero, mul_one] at hrounds

theorem rounds_of_mul? (hx : x.negative = false) (hy : y.negative = false)
    (h : x.mul? y = some z) : Rounds (x.value * y.value) z := by
  unfold mul? at h
  rw [hx, hy] at h
  have hrounds := rounds_of_ofScaled? Nat.one_pos h
  convert hrounds using 1
  rw [value_of_unsigned hx, value_of_unsigned hy, zpow_add₀ two_ne_zero]
  push_cast
  ring

theorem rounds_of_div? (hx : x.negative = false) (hy : y.negative = false)
    (h : x.div? y = some z) : Rounds (x.value / y.value) z := by
  unfold div? at h
  rw [hx, hy, Option.ite_none_left_eq_some] at h
  have hrounds := rounds_of_ofScaled? (Nat.pos_of_ne_zero h.1) h.2
  convert hrounds using 1
  rw [value_of_unsigned hx, value_of_unsigned hy, zpow_sub₀ two_ne_zero]
  have hpos : (y.significand : ℚ) ≠ 0 := by exact_mod_cast h.1
  field_simp

end IdentityForms.Binary64
