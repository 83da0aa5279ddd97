import IdentityForms.Json.Numeral
import IdentityForms.Proofs.Json.Rounding

/-! A significand of 64 bits that is multiplied or divided by a power of ten, where the significand,
the power and the result are rounded. A whole number comes out as it is if the significand is a
double. Otherwise it may be missed, by less than what tells it from other whole numbers unless it
has 53 bits itself; then another whole number may come out. -/
namespace IdentityForms.Binary64

/-- Whether a whole number is made of 53 adjacent binary places at most. -/
def Holds (n : Nat) : Prop := ∃ m k : Nat, m ≤ 2 ^ 53 ∧ n = m * 2 ^ k

variable {significand n k v : Nat} {exponent : Int} {x y z p : Binary64}

theorem Holds.fits (h : Holds n) : Fits n := by
  obtain ⟨m, k, hm, rfl⟩ := h
  refine ⟨m, k, hm, by omega, ?_⟩
  rw [zpow_natCast]
  push_cast
  rfl

theorem holds_of_le (h : n ≤ 2 ^ 53) : Holds n := ⟨n, 0, h, (Nat.mul_one n).symm⟩

theorem holds_mul_ten_pow (h : n * 5 ^ k ≤ 2 ^ 53) : Holds (n * 10 ^ k) :=
  ⟨n * 5 ^ k, k, h, by rw [Nat.mul_assoc, ← Nat.mul_pow]⟩

theorem lt_of_mul_ten_pow_lt {places : Nat} (hv : 0 < v) (h : v * 10 ^ k < 10 ^ places) :
    k < places :=
  (Nat.pow_lt_pow_iff_right (by decide)).mp ((Nat.le_mul_of_pos_left _ hv).trans_lt h)

/-- A whole number is its significand multiplied or divided by a power of ten. -/
theorem exists_ten_pow (h : (significand : ℚ) * 10 ^ exponent = v) :
    ∃ k : Nat, exponent = k ∧ significand * 10 ^ k = v ∨
      exponent = -k ∧ 0 < k ∧ significand = v * 10 ^ k := by
  rcases lt_or_ge exponent 0 with hneg | hnonneg
  · obtain ⟨k, rfl⟩ : ∃ k : Nat, exponent = -k := Int.exists_eq_neg_ofNat (by omega)
    rw [zpow_neg, zpow_natCast, mul_inv_eq_iff_eq_mul₀ (by positivity)] at h
    exact ⟨k, .inr ⟨rfl, by omega, by exact_mod_cast h⟩⟩
  · obtain ⟨k, rfl⟩ := Int.eq_ofNat_of_zero_le hnonneg
    rw [zpow_natCast] at h
    exact ⟨k, .inl ⟨rfl, by exact_mod_cast h⟩⟩

theorem rounds_of_powerOfTen? (h : powerOfTen? k = some p) : Rounds (10 ^ k) p := by
  exact_mod_cast rounds_of_ofNat? h

theorem Rounds.value_ten_pow (h : Rounds (10 ^ k) p) (hk : k ≤ 22) : p.value = 10 ^ k := by
  apply h.value_eq
  have hholds : Holds (1 * 10 ^ k) := by
    apply holds_mul_ten_pow
    rw [Nat.one_mul]
    exact (Nat.pow_le_pow_right (by decide) hk).trans (by decide)
  exact_mod_cast Nat.one_mul (10 ^ k) ▸ hholds.fits

theorem rounds_of_raise? (hx : x.negative = false) (hpos : 0 < x.value)
    (h : x.raise? k = some z) : ∃ p, Rounds (10 ^ k) p ∧ Rounds (x.value * p.value) z := by
  have hsignificand : x.significand ≠ 0 := by
    intro hzero
    rw [value_of_unsigned hx, hzero, Nat.cast_zero, zero_mul] at hpos
    exact lt_irrefl _ hpos
  unfold raise? at h
  split_ifs at h
  obtain ⟨p, hp, hz⟩ := Option.bind_eq_some_iff.mp h
  have hrounds := rounds_of_powerOfTen? hp
  exact ⟨p, hrounds, rounds_of_mul? hx hrounds.unsigned hz⟩

theorem rounds_of_lower? (hx : x.negative = false) (hk : k ≤ 308) (h : x.lower? k = some z) :
    ∃ p, Rounds (10 ^ k) p ∧ Rounds (x.value / p.value) z := by
  rw [lower?, if_pos hk] at h
  obtain ⟨p, hp, hz⟩ := Option.bind_eq_some_iff.mp h
  have hrounds := rounds_of_powerOfTen? hp
  exact ⟨p, hrounds, rounds_of_div? hx hrounds.unsigned hz⟩

theorem ofParts?_natCast (hpos : 0 < significand) (h : ofParts? significand k = some x) :
    ∃ y p, Rounds significand y ∧ Rounds (10 ^ k) p ∧ Rounds (y.value * p.value) x := by
  obtain ⟨y, hy, hx⟩ := Option.bind_eq_some_iff.mp h
  have hrounds := rounds_of_ofNat? hy
  have hone : (1 : ℚ) ≤ y.value := by
    apply hrounds.le_value
    · exact_mod_cast fits_natCast (n := 1) (by decide)
    · exact_mod_cast hpos
  rw [if_pos (Int.natCast_nonneg k), Int.toNat_natCast] at hx
  obtain ⟨p, hp, hx⟩ := rounds_of_raise? hrounds.unsigned (by linarith) hx
  exact ⟨y, p, hrounds, hp, hx⟩

theorem ofParts?_neg (hpos : 0 < k) (hk : k ≤ 308) (h : ofParts? significand (-k) = some x) :
    ∃ y p, Rounds significand y ∧ Rounds (10 ^ k) p ∧ Rounds (y.value / p.value) x := by
  obtain ⟨y, hy, hx⟩ := Option.bind_eq_some_iff.mp h
  have hrounds := rounds_of_ofNat? hy
  rw [if_neg (by omega), neg_neg, Int.toNat_natCast] at hx
  obtain ⟨p, hp, hx⟩ := rounds_of_lower? hrounds.unsigned hk hx
  exact ⟨y, p, hrounds, hp, hx⟩

theorem ofParts?_zero (h : ofParts? 0 exponent = some x) : x.negative = false ∧ x.value = 0 := by
  unfold ofParts? at h
  obtain ⟨y, hy, hx⟩ := Option.bind_eq_some_iff.mp h
  have hrounds := rounds_of_ofNat? hy
  have hvalue : y.value = 0 := by exact_mod_cast hrounds.value_eq (by exact_mod_cast fits_zero)
  split_ifs at hx
  · unfold raise? at hx
    split_ifs at hx
    · obtain ⟨p, hp, hx⟩ := Option.bind_eq_some_iff.mp hx
      have hx := rounds_of_mul? hrounds.unsigned (rounds_of_powerOfTen? hp).unsigned hx
      rw [hvalue, zero_mul] at hx
      exact ⟨hx.unsigned, hx.value_eq fits_zero⟩
    · obtain rfl := Option.some.inj hx
      exact ⟨hrounds.unsigned, hvalue⟩
  · have hsignificand : y.significand = 0 := by
      rw [value_of_unsigned hrounds.unsigned, mul_eq_zero] at hvalue
      exact_mod_cast hvalue.resolve_right (by positivity)
    unfold lower? at hx
    split_ifs at hx
    · obtain ⟨p, hp, hx⟩ := Option.bind_eq_some_iff.mp hx
      have hx := rounds_of_div? hrounds.unsigned (rounds_of_powerOfTen? hp).unsigned hx
      rw [hvalue, zero_div] at hx
      exact ⟨hx.unsigned, hx.value_eq fits_zero⟩
    · obtain rfl := Option.some.inj hx
      exact ⟨hrounds.unsigned, hvalue⟩

/-- How a whole number is told by the double that is made from its significand. -/
structure Tells (significand v : Nat) (x : Binary64) : Prop where
  unsigned : x.negative = false
  large : 9 * 10 ^ 15 ≤ v → 9 * 10 ^ 15 ≤ x.value
  exact : v < 9 * 10 ^ 15 → Holds significand → x.value = v
  near : v < 9 * 10 ^ 15 → |x.value - v| ≤ 1
  nearer : v < 2 ^ 52 → |x.value - v| ≤ 1 / 2
  whole : 2 ^ 52 < v → v < 9 * 10 ^ 15 → ∃ m : Nat, x.value = m

theorem tells_of_value_eq (hx : x.negative = false) (h : x.value = v) : Tells significand v x where
  unsigned := hx
  large hv := by
    rw [h]
    exact_mod_cast hv
  exact _ _ := h
  near _ := by simp [h]
  nearer _ := by simp [h]
  whole _ _ := ⟨v, h⟩

theorem tells_of_large (hx : x.negative = false) (hv : 9 * 10 ^ 15 ≤ v)
    (h : 9 * 10 ^ 15 ≤ x.value) : Tells significand v x where
  unsigned := hx
  large _ := h
  exact hlt := absurd hv (Nat.not_le.mpr hlt)
  near hlt := absurd hv (Nat.not_le.mpr hlt)
  nearer hlt := absurd hv (by omega)
  whole _ hlt := absurd hv (Nat.not_le.mpr hlt)

theorem fits_large : Fits (9 * 10 ^ 15) := by
  exact_mod_cast fits_natCast (n := 9 * 10 ^ 15) (by decide)

/-- A significand that is large keeps so when it is multiplied. -/
theorem large_of_mul (hlarge : 9 * 10 ^ 15 ≤ significand * 10 ^ k) (hy : Rounds significand y)
    (hp : Rounds (10 ^ k) p) : 9 * 10 ^ 15 ≤ y.value * p.value := by
  rcases Nat.lt_or_ge 15 k with hk | hk
  · have hpos : 0 < significand := Nat.pos_of_ne_zero fun hzero => by simp [hzero] at hlarge
    have hone : 1 ≤ y.value := by
      apply hy.le_value
      · exact_mod_cast fits_natCast (n := 1) (by decide)
      · exact_mod_cast hpos
    have hpower : 10 ^ 16 ≤ p.value := by
      apply hp.le_value
      · exact_mod_cast (holds_mul_ten_pow (n := 1) (k := 16) (by decide)).fits
      · exact pow_le_pow_right₀ (by norm_num) hk
    calc (9 * 10 ^ 15 : ℚ) ≤ 1 * 10 ^ 16 := by norm_num
      _ ≤ y.value * p.value := by gcongr
  · have hsplit : (10 : Nat) ^ 15 = 10 ^ (15 - k) * 10 ^ k := by
      rw [← Nat.pow_add, Nat.sub_add_cancel hk]
    have hsignificand : 9 * 10 ^ (15 - k) ≤ significand := by
      rw [hsplit, ← Nat.mul_assoc] at hlarge
      exact Nat.le_of_mul_le_mul_right hlarge (by positivity)
    have hsmall : 9 * 10 ^ (15 - k) ≤ 2 ^ 53 :=
      (Nat.mul_le_mul_left 9 (Nat.pow_le_pow_right (by decide) (Nat.sub_le 15 k))).trans (by decide)
    have hvalue : ((9 * 10 ^ (15 - k) : Nat) : ℚ) ≤ y.value :=
      hy.le_value (fits_natCast hsmall) (by exact_mod_cast hsignificand)
    rw [hp.value_ten_pow (by omega)]
    calc (9 * 10 ^ 15 : ℚ) = (9 * 10 ^ (15 - k) : Nat) * 10 ^ k := by
          push_cast
          rw [mul_assoc, ← pow_add, Nat.sub_add_cancel hk]
      _ ≤ y.value * 10 ^ k := by gcongr

theorem tells_of_natCast (hpos : 0 < significand) (hvalue : significand * 10 ^ k = v)
    (h : ofParts? significand k = some x) : Tells significand v x := by
  obtain ⟨y, p, hy, hp, hx⟩ := ofParts?_natCast hpos h
  rcases Nat.lt_or_ge v (9 * 10 ^ 15) with hv | hv
  · have hsignificand : significand ≤ v := hvalue ▸ Nat.le_mul_of_pos_right _ (by positivity)
    have hk : k < 16 := lt_of_mul_ten_pow_lt hpos (by omega)
    have hproduct : y.value * p.value = v := by
      rw [hy.value_eq (fits_natCast (by omega)), hp.value_ten_pow (by omega), ← hvalue]
      push_cast
      rfl
    rw [hproduct] at hx
    exact tells_of_value_eq hx.unsigned (hx.value_eq (fits_natCast (by omega)))
  · exact tells_of_large hx.unsigned hv (hx.le_value fits_large (large_of_mul (hvalue ▸ hv) hy hp))

theorem abs_div_sub_le (hv : 0 < v) (hy : Rounds (v * 10 ^ k : Nat) y) :
    |y.value / 10 ^ k - v| ≤ v / 2 ^ 53 := by
  have hpower : (0 : ℚ) < 10 ^ k := by positivity
  have herror := hy.error (by exact_mod_cast Nat.mul_pos hv (by positivity))
  rw [Nat.cast_mul, Nat.cast_pow, Nat.cast_ofNat] at herror
  calc |y.value / 10 ^ k - v| = |(y.value - v * 10 ^ k) / 10 ^ k| := by
        rw [sub_div, mul_div_cancel_right₀ _ hpower.ne']
    _ = |y.value - v * 10 ^ k| / 10 ^ k := by rw [abs_div, abs_of_pos hpower]
    _ ≤ v * 10 ^ k / 2 ^ 53 / 10 ^ k := by gcongr
    _ = v / 2 ^ 53 := by field_simp

/-- A significand that is large keeps so when it is divided. -/
theorem large_of_div (hlarge : 9 * 10 ^ 15 ≤ v) (hsize : v * 10 ^ k < 2 ^ 64)
    (hy : Rounds (v * 10 ^ k : Nat) y) : 9 * 10 ^ 15 ≤ y.value / 10 ^ k := by
  have hk : k ≤ 3 := by
    by_contra hk
    have hpower : 10 ^ 4 ≤ 10 ^ k := Nat.pow_le_pow_right (by decide) (by omega)
    have := Nat.mul_le_mul hlarge hpower
    omega
  have hholds : Holds (9 * 10 ^ (15 + k)) := by
    apply holds_mul_ten_pow
    exact (Nat.mul_le_mul_left 9 (Nat.pow_le_pow_right (by decide) (by omega))).trans
      (by decide : 9 * 5 ^ 18 ≤ 2 ^ 53)
  have hsignificand : 9 * 10 ^ (15 + k) ≤ v * 10 ^ k := by
    rw [Nat.pow_add, ← Nat.mul_assoc]
    exact Nat.mul_le_mul_right _ hlarge
  have hvalue : ((9 * 10 ^ (15 + k) : Nat) : ℚ) ≤ y.value :=
    hy.le_value hholds.fits (by exact_mod_cast hsignificand)
  rw [le_div_iff₀ (by positivity)]
  calc (9 * 10 ^ 15 * 10 ^ k : ℚ) = (9 * 10 ^ (15 + k) : Nat) := by
        push_cast
        ring
    _ ≤ y.value := hvalue

theorem fits_half (h : n ≤ 2 ^ 53) : Fits (n / 2) :=
  ⟨n, -1, h, by decide, by rw [zpow_neg_one, div_eq_mul_inv]⟩

theorem Rounds.abs_sub_le {q r distance : ℚ} (hx : Rounds q x) (hbelow : Fits (r - distance))
    (habove : Fits (r + distance)) (h : |q - r| ≤ distance) : |x.value - r| ≤ distance := by
  rw [abs_le] at h
  have hlow := hx.le_value hbelow (by linarith)
  have hhigh := hx.value_le habove (by linarith)
  rw [abs_le]
  constructor <;> linarith

section

variable {q : ℚ} (hx : Rounds q x) (hv : 0 < v) (herror : |q - v| ≤ v / 2 ^ 53)
include hx hv herror

/-- Below 53 bits the whole numbers on both sides of a number fit. -/
theorem near_of_rounds (hlt : v < 9 * 10 ^ 15) : |x.value - v| ≤ 1 := by
  obtain ⟨w, rfl⟩ : ∃ w, v = w + 1 := ⟨v - 1, by omega⟩
  apply hx.abs_sub_le
  · simpa using fits_natCast (n := w) (by omega)
  · exact_mod_cast fits_natCast (n := w + 1 + 1) (by omega)
  · refine herror.trans ?_
    rw [div_le_one (by positivity)]
    exact_mod_cast (by omega : w + 1 ≤ 2 ^ 53)

theorem nearer_of_rounds (hlt : v < 2 ^ 52) : |x.value - v| ≤ 1 / 2 := by
  obtain ⟨w, rfl⟩ : ∃ w, v = w + 1 := ⟨v - 1, by omega⟩
  apply hx.abs_sub_le
  · convert fits_half (n := 2 * w + 1) (by omega) using 1
    push_cast
    ring
  · convert fits_half (n := 2 * w + 3) (by omega) using 1
    push_cast
    ring
  · refine herror.trans ?_
    rw [div_le_div_iff₀ (by positivity) (by positivity)]
    exact_mod_cast (by omega : (w + 1) * 2 ≤ 1 * 2 ^ 53)

theorem exists_natCast_of_rounds (hbits : 2 ^ 52 < v) (hlt : v < 9 * 10 ^ 15) :
    ∃ m : Nat, x.value = m := by
  have hbits : (2 ^ 52 : ℚ) + 1 ≤ v := by exact_mod_cast hbits
  have hlow := (abs_le.mp (near_of_rounds hx hv herror hlt)).1
  exact hx.fits.exists_natCast (by linarith)

end

theorem tells_of_neg (hv : 0 < v) (hsize : v * 10 ^ k < 2 ^ 64) (hpos : 0 < k)
    (h : ofParts? (v * 10 ^ k) (-k) = some x) : Tells (v * 10 ^ k) v x := by
  have hk : k < 20 := lt_of_mul_ten_pow_lt hv (hsize.trans (by decide))
  obtain ⟨y, p, hy, hp, hx⟩ := ofParts?_neg hpos (by omega) h
  rw [hp.value_ten_pow (by omega)] at hx
  have herror := abs_div_sub_le hv hy
  constructor
  case unsigned => exact hx.unsigned
  case large => exact fun hlarge => hx.le_value fits_large (large_of_div hlarge hsize hy)
  case exact =>
    intro hlt hholds
    rw [hy.value_eq hholds.fits, Nat.cast_mul, Nat.cast_pow, Nat.cast_ofNat,
      mul_div_cancel_right₀ _ (by positivity)] at hx
    exact hx.value_eq (fits_natCast (by omega))
  case near => exact near_of_rounds hx hv herror
  case nearer => exact nearer_of_rounds hx hv herror
  case whole => exact exists_natCast_of_rounds hx hv herror

/-- The significand is that of the number, or the number is large and so is the significand. -/
theorem tells_of_ofParts? (hsize : significand < 2 ^ 64)
    (hvalue : (significand : ℚ) * 10 ^ exponent = v ∨
      9 * 10 ^ 15 ≤ significand ∧ 0 ≤ exponent ∧ 9 * 10 ^ 15 ≤ v)
    (h : ofParts? significand exponent = some x) : Tells significand v x := by
  rcases Nat.eq_zero_or_pos significand with rfl | hpos
  · obtain ⟨hunsigned, hx⟩ := ofParts?_zero h
    apply tells_of_value_eq hunsigned
    rw [hx]
    rcases hvalue with hvalue | ⟨hlarge, -⟩
    · rw [← hvalue, Nat.cast_zero, zero_mul]
    · omega
  rcases hvalue with hvalue | ⟨hlarge, hexponent, hv⟩
  · obtain ⟨k, ⟨rfl, hmul⟩ | ⟨rfl, hk, rfl⟩⟩ := exists_ten_pow hvalue
    · exact tells_of_natCast hpos hmul h
    · exact tells_of_neg (Nat.pos_of_mul_pos_right hpos) hsize hk h
  · obtain ⟨k, rfl⟩ := Int.eq_ofNat_of_zero_le hexponent
    obtain ⟨y, p, hy, hp, hx⟩ := ofParts?_natCast hpos h
    have hproduct : 9 * 10 ^ 15 ≤ significand * 10 ^ k :=
      hlarge.trans (Nat.le_mul_of_pos_right _ (by positivity))
    exact tells_of_large hx.unsigned hv (hx.le_value fits_large (large_of_mul hproduct hy hp))

/-- A number of 30 bits or so has a significand that is a double, with whatever power of ten. -/
theorem holds_significand (hsize : significand < 2 ^ 64)
    (hvalue : (significand : ℚ) * 10 ^ exponent = v) (hv : v * 5 ^ 10 ≤ 2 ^ 53) :
    Holds significand := by
  obtain ⟨k, ⟨rfl, hmul⟩ | ⟨rfl, -, rfl⟩⟩ := exists_ten_pow hvalue
  · have hle : significand ≤ v := hmul ▸ Nat.le_mul_of_pos_right _ (by positivity)
    exact holds_of_le (by omega)
  apply holds_mul_ten_pow
  rcases Nat.lt_or_ge 10 k with hk | hk
  · -- The powers of two in the significand leave no more than 53 bits.
    have hpower : 2 ^ 11 ≤ 2 ^ k := Nat.pow_le_pow_right (by decide) hk
    have hsplit : v * 10 ^ k = v * 5 ^ k * 2 ^ k := by rw [Nat.mul_assoc, ← Nat.mul_pow]
    have := Nat.mul_le_mul_left (v * 5 ^ k) hpower
    omega
  · exact (Nat.mul_le_mul_left v (Nat.pow_le_pow_right (by decide) hk)).trans hv

end IdentityForms.Binary64
