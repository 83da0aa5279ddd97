import IdentityForms.Proofs.Json.Grammar
import IdentityForms.Proofs.Json.Scaling

/-! The significand of a numeral and the power of ten that goes with it. Together they are the
number that is written, if that is whole and not large: digits that find no place in the significand
are zeros then. -/
namespace IdentityForms.Json

variable {numeral : Numeral} {digits : List Char} {significand v : Nat} {exponent : Int}

theorem digit_le_nine {c : Char} (h : c.isDigit) : c.toNat - '0'.toNat ≤ 9 := by
  have hbounds : 48 ≤ c.toNat ∧ c.toNat ≤ 57 := Char.isDigit_iff_toNat.mp h
  have hzero : '0'.toNat = 48 := rfl
  omega

theorem ofDigitChars_lt (h : ∀ c ∈ digits, c.isDigit) :
    Nat.ofDigitChars 10 digits 0 < 10 ^ digits.length := by
  induction digits with
  | nil => decide
  | cons c digits ih =>
    have hdigit := digit_le_nine (h c List.mem_cons_self)
    have hrest := ih fun d hd => h d (List.mem_cons_of_mem c hd)
    rw [Nat.ofDigitChars_cons, Nat.ofDigitChars_eq_ofDigitChars_zero, Nat.mul_zero, Nat.zero_add,
      List.length_cons, Nat.pow_succ]
    have := Nat.mul_le_mul_left (10 ^ digits.length) hdigit
    omega

namespace Numeral

/-- The number that a numeral is, exactly. -/
def value (numeral : Numeral) : ℚ :=
  (if numeral.negative then -1 else 1) *
    (Nat.ofDigitChars 10 numeral.whole 0 +
      Nat.ofDigitChars 10 numeral.fraction 0 / 10 ^ numeral.fraction.length) *
    10 ^ numeral.exponent.getD 0

/-- The digits on both sides of the point are taken together and moved by one power of ten. -/
theorem value_eq (numeral : Numeral) : numeral.value = (if numeral.negative then -1 else 1) *
    (Nat.ofDigitChars 10 (numeral.whole ++ numeral.fraction) 0 *
      10 ^ (numeral.exponent.getD 0 - numeral.fraction.length)) := by
  have hpow : (10 : ℚ) ^ numeral.fraction.length ≠ 0 := by positivity
  rw [Nat.ofDigitChars_append, Nat.ofDigitChars_eq_ofDigitChars_zero,
    zpow_sub₀ (by norm_num), zpow_natCast]
  unfold value
  push_cast
  field_simp

/-- The numbers that the leading digits of a numeral make, as many as 64 bits have place for. -/
def Leads (numeral : Numeral) (significand : Nat) : Prop :=
  ∃ front back, numeral.whole ++ numeral.fraction = front ++ back ∧
    significand = Nat.ofDigitChars 10 front 0 ∧ significand < 2 ^ 64 ∧
    ∀ c rest, back = c :: rest → 2 ^ 64 ≤ Nat.ofDigitChars 10 (front ++ [c]) 0

theorem le_ofDigitChars (front : List Char) (c : Char) (rest : List Char) :
    Nat.ofDigitChars 10 (front ++ [c]) 0 ≤ Nat.ofDigitChars 10 (front ++ c :: rest) 0 := by
  rw [List.append_cons front c rest, Nat.ofDigitChars_append (m := rest)]
  generalize Nat.ofDigitChars 10 (front ++ [c]) 0 = start
  have hpos : 0 < 10 ^ rest.length := by positivity
  rw [Nat.ofDigitChars_eq_ofDigitChars_zero]
  exact (Nat.le_mul_of_pos_left start hpos).trans (Nat.le_add_right _ _)

/-- A front can be no longer than another one that has no place left. -/
theorem Leads.unique {other : Nat} (h : numeral.Leads significand) (hother : numeral.Leads other) :
    significand = other := by
  have hshort {front back more rest : List Char} (hback : back = more ++ rest)
      (hlt : Nat.ofDigitChars 10 (front ++ more) 0 < 2 ^ 64)
      (hfull : ∀ c rest, back = c :: rest → 2 ^ 64 ≤ Nat.ofDigitChars 10 (front ++ [c]) 0) :
      more = [] := by
    cases more with
    | nil => rfl
    | cons c more =>
      have hc := hfull c (more ++ rest) hback
      exact absurd (hc.trans (le_ofDigitChars front c more)) (Nat.not_le.mpr hlt)
  obtain ⟨front, back, hdigits, rfl, hlt, hfull⟩ := h
  obtain ⟨front', back', hdigits', rfl, hlt', hfull'⟩ := hother
  rcases List.append_eq_append_iff.mp (hdigits.symm.trans hdigits') with
    ⟨more, rfl, hback⟩ | ⟨more, rfl, hback⟩
  · rw [hshort hback hlt' hfull, List.append_nil]
  · rw [hshort hback hlt hfull', List.append_nil]

/-- The digits that are taken make a number of 64 bits, which the next one would exceed. -/
theorem exists_of_gather (hsize : significand < 2 ^ 64) (digits : List Char) :
    ∃ taken left, digits = taken ++ left ∧
      gather significand digits = (Nat.ofDigitChars 10 taken significand, left.length) ∧
      Nat.ofDigitChars 10 taken significand < 2 ^ 64 ∧
      ∀ c rest, left = c :: rest → 2 ^ 64 ≤ Nat.ofDigitChars 10 (taken ++ [c]) significand := by
  induction digits generalizing significand with
  | nil => exact ⟨[], [], rfl, rfl, hsize, by simp⟩
  | cons c digits ih =>
    unfold gather
    simp only [Nat.pow_eq]
    by_cases hlonger : 10 * significand + (c.toNat - '0'.toNat) < 2 ^ 64
    · obtain ⟨taken, left, rfl, hgather, hlt, hfull⟩ := ih hlonger
      refine ⟨c :: taken, left, rfl, ?_, ?_, ?_⟩
      · rw [if_pos hlonger, hgather, Nat.ofDigitChars_cons]
      · rwa [Nat.ofDigitChars_cons]
      · simpa only [List.cons_append, Nat.ofDigitChars_cons] using hfull
    · rw [if_neg hlonger]
      refine ⟨[], c :: digits, rfl, rfl, hsize, ?_⟩
      intro d rest hrest
      cases hrest
      exact Nat.not_lt.mp hlonger

theorem ofDigitChars_concat (digits : List Char) (c : Char) (significand : Nat) :
    Nat.ofDigitChars 10 (digits ++ [c]) significand =
      10 * Nat.ofDigitChars 10 digits significand + (c.toNat - '0'.toNat) := by
  rw [Nat.ofDigitChars_append, Nat.ofDigitChars_cons, Nat.ofDigitChars_nil]

/-- With no place left for a digit, a significand is large. -/
theorem large_of_full {c : Char} (hc : c.isDigit)
    (hfull : 2 ^ 64 ≤ Nat.ofDigitChars 10 (digits ++ [c]) significand) :
    9 * 10 ^ 15 ≤ Nat.ofDigitChars 10 digits significand := by
  have := digit_le_nine hc
  rw [ofDigitChars_concat] at hfull
  omega

/-- After a digit that found no place there is place for one more at most. -/
theorem eq_nil_of_full {c d : Char} {behind : List Char} (hc : c.isDigit)
    (hfull : 2 ^ 64 ≤ 10 * significand + (c.toNat - '0'.toNat))
    (hlt : Nat.ofDigitChars 10 (d :: behind) significand < 2 ^ 64) : behind = [] := by
  have := digit_le_nine hc
  cases behind with
  | nil => rfl
  | cons e behind =>
    rw [Nat.ofDigitChars_cons, Nat.ofDigitChars_cons, Nat.ofDigitChars_eq_ofDigitChars_zero] at hlt
    have := Nat.le_mul_of_pos_left
      (10 * (10 * significand + (d.toNat - '0'.toNat)) + (e.toNat - '0'.toNat))
      (Nat.pow_pos (n := behind.length) (by decide : 0 < 10))
    omega

/-- The significand is made of the leading digits. With too many digits before the point, the first
one behind it may be taken in spite of those that are left. -/
inductive Cut (numeral : Numeral) (exponent : Int) : Nat → Prop where
  | leading (front back : List Char) (hdigits : numeral.whole ++ numeral.fraction = front ++ back)
      (hlt : Nat.ofDigitChars 10 front 0 < 2 ^ 64)
      (hfull : ∀ c rest, back = c :: rest → 2 ^ 64 ≤ Nat.ofDigitChars 10 (front ++ [c]) 0)
      (hexponent : exponent = numeral.exponent.getD 0 - numeral.fraction.length + back.length) :
      Cut numeral exponent (Nat.ofDigitChars 10 front 0)
  | skipping (front back : List Char) (d : Nat)
      (hdigits : numeral.whole ++ numeral.fraction = front ++ back)
      (hlarge : 9 * 10 ^ 15 ≤ Nat.ofDigitChars 10 front 0)
      (hback : Nat.ofDigitChars 10 back 0 ≠ 0)
      (hexponent : exponent = numeral.exponent.getD 0 - numeral.fraction.length + back.length - 1) :
      Cut numeral exponent (10 * Nat.ofDigitChars 10 front 0 + d)

theorem parts_eq {left behind dropped : List Char}
    (hwhole : gather 0 numeral.whole = (significand, left.length))
    (hfraction : numeral.fraction = behind ++ dropped)
    (hgather : gather significand numeral.fraction = (v, dropped.length)) :
    numeral.parts = (v, left.length - behind.length + numeral.exponent.getD 0) := by
  unfold parts
  rw [hwhole]
  dsimp only
  rw [hgather]
  dsimp only
  rw [hfraction, List.length_append, Nat.add_sub_cancel]

theorem cut_parts (h : numeral.IsDecimal) :
    numeral.parts.1 < 2 ^ 64 ∧ Cut numeral numeral.parts.2 numeral.parts.1 := by
  obtain ⟨taken, left, hwhole, hgather, hlt, hfull⟩ :=
    exists_of_gather (by decide : 0 < 2 ^ 64) numeral.whole
  obtain ⟨behind, dropped, hfraction, hgather', hlt', hfull'⟩ :=
    exists_of_gather hlt numeral.fraction
  rw [parts_eq hgather hfraction hgather']
  refine ⟨hlt', ?_⟩
  have hlength : numeral.fraction.length = behind.length + dropped.length := by
    rw [hfraction, List.length_append]
  have hdigits : numeral.whole ++ numeral.fraction = taken ++ (left ++ (behind ++ dropped)) := by
    rw [hwhole, hfraction, List.append_assoc]
  cases left with
  | nil =>
    simp only [← Nat.ofDigitChars_append, ← List.append_assoc] at hlt' hfull' ⊢
    refine .leading _ dropped (by simp [hdigits]) hlt' hfull' ?_
    rw [hlength, List.length_nil]
    omega
  | cons c rest =>
    have hc := h.whole c (by simp [hwhole])
    have hfull := hfull c rest rfl
    cases behind with
    | nil =>
      refine .leading taken _ hdigits hlt (fun d more hmore => ?_) ?_
      · cases hmore
        exact hfull
      · simp only [hlength, List.length_append, List.length_nil]
        omega
    | cons d behind =>
      have hlarge := large_of_full hc hfull
      rw [ofDigitChars_concat] at hfull
      obtain rfl := eq_nil_of_full hc hfull hlt'
      rw [Nat.ofDigitChars_cons, Nat.ofDigitChars_nil]
      refine .skipping taken _ _ hdigits hlarge ?_ ?_
      · have hpos : 0 < c.toNat - '0'.toNat := by
          rw [Nat.ofDigitChars_cons, Nat.ofDigitChars_nil] at hlt'
          omega
        rw [List.cons_append, Nat.ofDigitChars_cons, Nat.ofDigitChars_eq_ofDigitChars_zero]
        positivity
      · simp only [hlength, List.length_append, List.length_singleton]
        omega

section

variable {front back shift : Nat} {places : Int}
  (hvalue : ((10 ^ shift * front + back : Nat) : ℚ) * 10 ^ places = v)
include hvalue

/-- The places of a whole number that are left have their powers of ten in it. -/
theorem one_le_of_back_ne_zero (hback : back < 10 ^ shift) (hne : back ≠ 0) :
    1 ≤ places + shift := by
  by_contra hneg
  obtain ⟨more, rfl⟩ : ∃ more : Nat, places = -(shift + more : Nat) :=
    ⟨(-places).toNat - shift, by omega⟩
  rw [zpow_neg, zpow_natCast, mul_inv_eq_iff_eq_mul₀ (by positivity)] at hvalue
  have hwhole : 10 ^ shift * front + back = v * 10 ^ (shift + more) := by exact_mod_cast hvalue
  have hdvd : 10 ^ shift ∣ 10 ^ shift * front + back := by
    rw [hwhole, Nat.pow_add, Nat.mul_left_comm]
    exact Nat.dvd_mul_right _ _
  exact hne (Nat.eq_zero_of_dvd_of_lt ((Nat.dvd_add_right (Nat.dvd_mul_right _ _)).mp hdvd) hback)

theorem front_le (hshift : 0 ≤ places + shift) : front ≤ v := by
  obtain ⟨k, hk⟩ := Int.eq_ofNat_of_zero_le hshift
  have hpower : (10 : ℚ) ^ places * 10 ^ shift = 10 ^ k := by
    rw [← zpow_natCast, ← zpow_natCast, ← zpow_add₀ (by norm_num), hk]
  have hlow : (front : ℚ) * 10 ^ k ≤ v := by
    rw [← hvalue, ← hpower]
    push_cast
    have : 0 ≤ (back : ℚ) * 10 ^ places := by positivity
    nlinarith
  have hlow : front * 10 ^ k ≤ v := by exact_mod_cast hlow
  exact (Nat.le_mul_of_pos_right _ (by positivity)).trans hlow

end

/-- The leading digits tell a whole number exactly, or it is large and so is the significand. -/
theorem Cut.value (h : Cut numeral exponent significand) (hdecimal : numeral.IsDecimal)
    (hvalue : (Nat.ofDigitChars 10 (numeral.whole ++ numeral.fraction) 0 : ℚ) *
      10 ^ (numeral.exponent.getD 0 - numeral.fraction.length) = v) :
    numeral.Leads significand ∧ (significand : ℚ) * 10 ^ exponent = v ∨
      9 * 10 ^ 15 ≤ significand ∧ 0 ≤ exponent ∧ 9 * 10 ^ 15 ≤ v := by
  have hisDigit {front back : List Char} {c : Char}
      (hdigits : numeral.whole ++ numeral.fraction = front ++ back) (hc : c ∈ back) :
      c.isDigit := by
    have hmem : c ∈ numeral.whole ++ numeral.fraction := hdigits ▸ List.mem_append_right front hc
    exact (List.mem_append.mp hmem).elim (hdecimal.whole c) (hdecimal.fraction c)
  cases h with
  | leading front back hdigits hlt hfull hexponent =>
    subst hexponent
    have hback := ofDigitChars_lt fun c => hisDigit hdigits (c := c)
    rw [hdigits, Nat.ofDigitChars_append, Nat.ofDigitChars_eq_ofDigitChars_zero] at hvalue
    by_cases hzero : Nat.ofDigitChars 10 back 0 = 0
    · refine .inl ⟨⟨front, back, hdigits, rfl, hlt, hfull⟩, ?_⟩
      rw [hzero, Nat.add_zero] at hvalue
      rw [← hvalue, zpow_add₀ (by norm_num), zpow_natCast]
      push_cast
      ring
    · have hshift := one_le_of_back_ne_zero hvalue hback hzero
      have hne : back ≠ [] := fun hempty => hzero (by rw [hempty, Nat.ofDigitChars_nil])
      obtain ⟨c, rest, rfl⟩ := List.exists_cons_of_ne_nil hne
      have hlarge := large_of_full (hisDigit hdigits List.mem_cons_self) (hfull c rest rfl)
      exact .inr ⟨hlarge, by omega, hlarge.trans (front_le hvalue (by omega))⟩
  | skipping front back d hdigits hlarge hne hexponent =>
    have hback := ofDigitChars_lt fun c => hisDigit hdigits (c := c)
    rw [hdigits, Nat.ofDigitChars_append, Nat.ofDigitChars_eq_ofDigitChars_zero] at hvalue
    have hshift := one_le_of_back_ne_zero hvalue hback hne
    exact .inr ⟨by omega, by omega, hlarge.trans (front_le hvalue (by omega))⟩

variable {number : Number} {n : Int} {x : Binary64}

/-- What a whole number is, apart from its sign. -/
theorem magnitude_of_value (h : numeral.value = n) :
    (Nat.ofDigitChars 10 (numeral.whole ++ numeral.fraction) 0 : ℚ) *
      10 ^ (numeral.exponent.getD 0 - numeral.fraction.length) = n.natAbs := by
  rw [value_eq] at h
  rw [Nat.cast_natAbs, Int.cast_abs, ← h, abs_mul]
  split <;> simp [abs_of_nonneg]

theorem sign_of_value (h : numeral.value = n) :
    (n : ℚ) = (if numeral.negative then -1 else 1) * n.natAbs := by
  rw [← magnitude_of_value h, ← value_eq, h]

section

variable (hdecimal : numeral.IsDecimal) (hvalue : numeral.value = n)
  (hexponent : n = 0 ∨ -2 ^ 31 < numeral.exponent.getD 0) (h : numeral.toBinary64? = some x)
include hdecimal hvalue hexponent h

/-- A double of a numeral is one that tells its whole number, but for the sign. An exponent below 32
bits leaves nothing of a number. -/
theorem exists_magnitude : ∃ y, Binary64.Tells numeral.parts.1 n.natAbs y ∧
    x = { y with negative := numeral.negative } := by
  obtain ⟨hsize, hcut⟩ := cut_parts hdecimal
  have hparts : (numeral.parts.1 : ℚ) * 10 ^ numeral.parts.2 = n.natAbs ∨
      9 * 10 ^ 15 ≤ numeral.parts.1 ∧ 0 ≤ numeral.parts.2 ∧ 9 * 10 ^ 15 ≤ n.natAbs :=
    (hcut.value hdecimal (magnitude_of_value hvalue)).imp_left And.right
  obtain ⟨y, hy, rfl⟩ := Option.map_eq_some_iff.mp h
  refine ⟨y, ?_, rfl⟩
  rw [Nat.pow_eq] at hy
  by_cases hbits : (numeral.exponent.getD 0).natAbs < 2 ^ 31
  · rw [if_pos hbits] at hy
    exact Binary64.tells_of_ofParts? hsize hparts hy
  · -- An exponent that is counted no longer has a double for zero only.
    rw [if_neg hbits, Option.ite_none_right_eq_some] at hy
    obtain ⟨hzero, hy⟩ := hy
    have hrounds := Binary64.rounds_of_ofNat? hy
    apply Binary64.tells_of_value_eq hrounds.unsigned
    rw [hrounds.value_eq (by exact_mod_cast Binary64.fits_zero)]
    rcases hexponent with rfl | hexponent
    · rfl
    have hzero : numeral.parts.1 = 0 := hzero.resolve_right (by omega)
    rcases hparts with hparts | ⟨hlarge, -⟩
    · rw [← hparts, hzero, Nat.cast_zero, zero_mul]
    · omega

/-- The sign is that of the number, so it changes no distance. -/
theorem exists_tells : ∃ y, Binary64.Tells numeral.parts.1 n.natAbs y ∧ |x.value| = y.value ∧
    |x.value - n| = |y.value - n.natAbs| := by
  obtain ⟨y, htells, rfl⟩ := exists_magnitude hdecimal hvalue hexponent h
  have hsign : |(if numeral.negative then -1 else 1 : ℚ)| = 1 := by split <;> simp
  have hnonneg : 0 ≤ y.value := by
    rw [Binary64.value_of_unsigned htells.unsigned]
    positivity
  refine ⟨y, htells, ?_, ?_⟩
  · rw [Binary64.value_signed htells.unsigned, abs_mul, hsign, one_mul, abs_of_nonneg hnonneg]
  · rw [Binary64.value_signed htells.unsigned, sign_of_value hvalue, ← mul_sub, abs_mul, hsign,
      one_mul]

end

/-- Whether the digits of a numeral that 64 bits have place for are those of a double. -/
def IsSharp (numeral : Numeral) : Prop :=
  ∃ significand, numeral.Leads significand ∧ Binary64.Holds significand

theorem holds_parts (hdecimal : numeral.IsDecimal) (hvalue : numeral.value = n)
    (hn : n.natAbs < 9 * 10 ^ 15) (h : n.natAbs * 5 ^ 10 ≤ 2 ^ 53 ∨ numeral.IsSharp) :
    Binary64.Holds numeral.parts.1 := by
  obtain ⟨hsize, hcut⟩ := cut_parts hdecimal
  rcases hcut.value hdecimal (magnitude_of_value hvalue) with ⟨hleads, hparts⟩ | ⟨-, -, hlarge⟩
  · rcases h with hsmall | ⟨significand, hsignificand, hholds⟩
    · exact Binary64.holds_significand hsize hparts hsmall
    · exact hsignificand.unique hleads ▸ hholds
  · omega

end Numeral

end IdentityForms.Json
