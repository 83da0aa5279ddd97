import IdentityForms.Proofs.Json.Significand
import IdentityForms.Proofs.Json.Spelling
import IdentityForms.Schema.Document

/-! The orders that whole numbers give. Digits alone give the number itself or no order. With a
point or an exponent a number is held as a double, which may miss it by one. -/
namespace IdentityForms.Json

variable {numeral : Numeral} {number : Number} {x : Binary64} {m n : Int}

namespace Number

theorem map_order?_integer (n : Int) : (integer n).order?.map Int64.toInt =
    if -2 ^ 63 ≤ n ∧ n < 2 ^ 63 then some n else none := by
  have hmin : Int64.minValue.toInt = -2 ^ 63 := by decide
  have hmax : Int64.maxValue.toInt = 2 ^ 63 - 1 := by decide
  have hrange : -2 ^ 63 ≤ n ∧ n ≤ 2 ^ 63 - 1 ↔ -2 ^ 63 ≤ n ∧ n < 2 ^ 63 := by omega
  simp only [order?, hmin, hmax, hrange]
  split
  · next h => rw [Option.map_some, Int64.toInt_ofInt_of_le h.1 h.2]
  · rfl

/-- A double gives the order that it is, below the bound of orders. -/
theorem map_order?_binary_eq_some : (binary x).order?.map Int64.toInt = some m ↔
    x.value = m ∧ m.natAbs < 9 * 10 ^ 15 := by
  have hread {i : Int} (hi : i.natAbs < 9 * 10 ^ 15) : (Int64.ofInt i).toInt = i :=
    Int64.toInt_ofInt_of_le (by omega) (by omega)
  simp only [order?, Option.map_eq_some_iff, Option.bind_eq_some_iff, Binary64.toInt?_eq_some,
    Option.ite_none_right_eq_some, Option.some.injEq, Nat.pow_eq]
  constructor
  · rintro ⟨_, ⟨i, hvalue, hi, rfl⟩, rfl⟩
    rw [hread hi]
    exact ⟨hvalue, hi⟩
  · rintro ⟨hvalue, hm⟩
    exact ⟨_, ⟨m, hvalue, hm, rfl⟩, hread hm⟩

end Number

namespace Numeral

theorem value_of_isInteger (h : numeral.isInteger) : numeral.value =
    (if numeral.negative then -1 else 1) * (Nat.ofDigitChars 10 numeral.whole 0 : ℚ) := by
  obtain ⟨hfraction, hexponent⟩ : numeral.fraction = [] ∧ numeral.exponent = none := by
    simpa [isInteger] using h
  simp [value, hfraction, hexponent]

theorem eq_of_signed {b : Bool} {magnitude : Nat}
    (h : (if b then -1 else 1) * (magnitude : ℚ) = n) :
    n = if b then -(magnitude : Int) else magnitude := by
  cases b with
  | false =>
    simp only [Bool.false_eq_true, if_false, one_mul] at h ⊢
    exact_mod_cast h.symm
  | true =>
    simp only [if_true, neg_mul, one_mul] at h ⊢
    exact_mod_cast h.symm

/-- A whole number that is written with a point or an exponent, or does not fit 64 bits, is held as
a double. -/
theorem toNumber?_of_value (h : numeral.toNumber? = some number) (hvalue : numeral.value = n) :
    number = .integer n ∧ numeral.isInteger ∨
      ∃ x, number = .binary x ∧ numeral.toBinary64? = some x ∧
        (numeral.isInteger → n = 0 ∨ n < -2 ^ 63 ∨ 2 ^ 64 ≤ n) := by
  rcases toNumber?_eq_some h with
    ⟨i, rfl, -, -, hinteger, hsign, hmagnitude⟩ | ⟨x, rfl, hrange, hx⟩
  · rw [value_of_isInteger hinteger] at hvalue
    have hn := eq_of_signed hvalue
    rw [hsign, hmagnitude] at hn
    have hi : i = n := by
      simp only [decide_eq_true_eq] at hn
      split at hn <;> omega
    exact .inl ⟨by rw [hi], hinteger⟩
  · refine .inr ⟨x, rfl, hx, fun hinteger => ?_⟩
    rw [value_of_isInteger hinteger] at hvalue
    have hn := eq_of_signed hvalue
    rcases hrange hinteger with hlarge | ⟨hsign, hrange⟩
    · split at hn <;> omega
    · rw [if_pos hsign] at hn
      omega

theorem abs_sub_eq (h : x.value = m) (n : Int) : |x.value - n| = (m - n).natAbs := by
  rw [h, Nat.cast_natAbs, Int.cast_abs, Int.cast_sub]

/-- The order that a numeral of a whole number gives. It is exact if the digits of the numeral are
those of a double, as they always are for a number that is small enough. Otherwise a number below
52 bits may give no order, and one above may be missed by one. -/
structure Gives (numeral : Numeral) (n : Int) (order? : Option Int) : Prop where
  integer : numeral.isInteger → order? = if -2 ^ 63 ≤ n ∧ n < 2 ^ 63 then some n else none
  large : ¬numeral.isInteger → 9 * 10 ^ 15 ≤ n.natAbs → order? = none
  exact : ¬numeral.isInteger → n.natAbs < 9 * 10 ^ 15 →
    n.natAbs * 5 ^ 10 ≤ 2 ^ 53 ∨ numeral.IsSharp → order? = some n
  near : ¬numeral.isInteger → ∀ m, order? = some m →
    (m - n).natAbs ≤ 1 ∧ (n.natAbs < 2 ^ 52 → m = n)
  present : ¬numeral.isInteger → 2 ^ 52 < n.natAbs → n.natAbs + 1 < 9 * 10 ^ 15 → order? ≠ none

/-- Whether a numeral gives no order but its number. -/
def IsFaithful (numeral : Numeral) (n : Int) : Prop :=
  numeral.isInteger ∨ n.natAbs < 2 ^ 52 ∨ numeral.IsSharp

theorem Gives.natAbs_sub_le (h : numeral.Gives n (some m)) : (m - n).natAbs ≤ 1 := by
  by_cases hinteger : numeral.isInteger
  · have hm := h.integer hinteger
    split_ifs at hm
    rw [Option.some.inj hm, Int.sub_self]
    decide
  · exact (h.near hinteger m rfl).1

theorem Gives.eq_of_isFaithful (h : numeral.Gives n (some m)) (hfaithful : numeral.IsFaithful n) :
    m = n := by
  by_cases hinteger : numeral.isInteger
  · have hm := h.integer hinteger
    split_ifs at hm
    exact Option.some.inj hm
  rcases hfaithful.resolve_left hinteger with hsmall | hsharp
  · exact (h.near hinteger m rfl).2 hsmall
  · have hn : n.natAbs < 9 * 10 ^ 15 := by
      by_contra hn
      exact Option.some_ne_none m (h.large hinteger (Nat.not_lt.mp hn))
    exact Option.some.inj (h.exact hinteger hn (.inr hsharp))

section

variable (hdecimal : numeral.IsDecimal) (hvalue : numeral.value = n)
  (hexponent : n = 0 ∨ -2 ^ 31 < numeral.exponent.getD 0) (hx : numeral.toBinary64? = some x)
include hdecimal hvalue hexponent hx

theorem map_order?_of_large (hn : 9 * 10 ^ 15 ≤ n.natAbs) :
    (Number.binary x).order?.map Int64.toInt = none := by
  obtain ⟨y, htells, habs, -⟩ := exists_tells hdecimal hvalue hexponent hx
  rw [Option.eq_none_iff_forall_ne_some]
  intro m hm
  obtain ⟨hm, hsmall⟩ := Number.map_order?_binary_eq_some.mp hm
  have hlarge := htells.large hn
  rw [← habs, hm, ← Int.cast_abs, ← Nat.cast_natAbs] at hlarge
  have hlarge : 9 * 10 ^ 15 ≤ m.natAbs := by exact_mod_cast hlarge
  omega

theorem map_order?_of_sharp (hn : n.natAbs < 9 * 10 ^ 15)
    (h : n.natAbs * 5 ^ 10 ≤ 2 ^ 53 ∨ numeral.IsSharp) :
    (Number.binary x).order?.map Int64.toInt = some n := by
  obtain ⟨y, htells, -, hdistance⟩ := exists_tells hdecimal hvalue hexponent hx
  rw [htells.exact hn (holds_parts hdecimal hvalue hn h), sub_self, abs_zero, abs_eq_zero,
    sub_eq_zero] at hdistance
  exact Number.map_order?_binary_eq_some.mpr ⟨hdistance, hn⟩

theorem near_of_map_order? (h : (Number.binary x).order?.map Int64.toInt = some m) :
    (m - n).natAbs ≤ 1 ∧ (n.natAbs < 2 ^ 52 → m = n) := by
  obtain ⟨y, htells, -, hdistance⟩ := exists_tells hdecimal hvalue hexponent hx
  have hn : n.natAbs < 9 * 10 ^ 15 := by
    by_contra hn
    rw [map_order?_of_large hdecimal hvalue hexponent hx (Nat.not_lt.mp hn)] at h
    contradiction
  rw [abs_sub_eq (Number.map_order?_binary_eq_some.mp h).1] at hdistance
  constructor
  · have hnear := htells.near hn
    rw [← hdistance] at hnear
    exact_mod_cast hnear
  · intro hsmall
    have hnearer := htells.nearer hsmall
    rw [← hdistance, le_div_iff₀ (by norm_num)] at hnearer
    have hnearer : (m - n).natAbs * 2 ≤ 1 := by exact_mod_cast hnearer
    omega

theorem map_order?_ne_none (hbits : 2 ^ 52 < n.natAbs) (hn : n.natAbs + 1 < 9 * 10 ^ 15) :
    (Number.binary x).order?.map Int64.toInt ≠ none := by
  obtain ⟨y, htells, habs, hdistance⟩ := exists_tells hdecimal hvalue hexponent hx
  obtain ⟨m, hm⟩ := htells.whole hbits (by omega)
  obtain ⟨i, hi⟩ : ∃ i : Int, x.value = i := by
    rw [hm, abs_eq (by positivity)] at habs
    rcases habs with habs | habs
    · exact ⟨m, by exact_mod_cast habs⟩
    · exact ⟨-m, by exact_mod_cast habs⟩
  have hnear := htells.near (by omega)
  rw [← hdistance, abs_sub_eq hi] at hnear
  have hnear : (i - n).natAbs ≤ 1 := by exact_mod_cast hnear
  rw [Number.map_order?_binary_eq_some.mpr ⟨hi, by omega⟩]
  exact Option.some_ne_none i

end

theorem gives_order (hdecimal : numeral.IsDecimal) (hvalue : numeral.value = n)
    (hexponent : n = 0 ∨ -2 ^ 31 < numeral.exponent.getD 0) (h : numeral.toNumber? = some number) :
    numeral.Gives n (number.order?.map Int64.toInt) := by
  rcases toNumber?_of_value h hvalue with ⟨rfl, hinteger⟩ | ⟨x, rfl, hx, hrange⟩
  · constructor
    case integer => exact fun _ => Number.map_order?_integer n
    all_goals exact absurd hinteger
  · constructor
    case integer =>
      intro hinteger
      rcases hrange hinteger with rfl | hrange
      · exact map_order?_of_sharp hdecimal hvalue hexponent hx (by decide) (.inl (by decide))
      · rw [if_neg (by omega)]
        exact map_order?_of_large hdecimal hvalue hexponent hx (by omega)
    case large => exact fun _ => map_order?_of_large hdecimal hvalue hexponent hx
    case exact => exact fun _ => map_order?_of_sharp hdecimal hvalue hexponent hx
    case near => exact fun _ m => near_of_map_order? hdecimal hvalue hexponent hx
    case present => exact fun _ => map_order?_ne_none hdecimal hvalue hexponent hx

end Numeral

end IdentityForms.Json
