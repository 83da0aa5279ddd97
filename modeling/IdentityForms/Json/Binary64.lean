/-! Finite numbers of the double format. Their arithmetic gives the one nearest to the exact result;
of two neighbours equally near, the one with the even significand is taken. -/
namespace IdentityForms

/-- The number `significand * 2 ^ exponent` with a sign, which zero has too. -/
structure Binary64 where
  negative : Bool
  significand : Nat
  exponent : Int
  deriving DecidableEq

namespace Binary64

/-- The integer nearest to a quotient, the even one of two. -/
def roundQuotient (num den : Nat) : Nat :=
  let quotient := num / den
  let remainder := num % den
  if 2 * remainder < den ∨ (2 * remainder = den ∧ quotient % 2 = 0) then quotient
  else quotient + 1

/-- The exponent at which a positive quotient has a significand of 53 bits, or the least
exponent of the format if that is larger. -/
def exponentFor (num den : Nat) : Int :=
  let scale : Int := num.log2 - den.log2
  let small := if 0 ≤ scale then num < den * Nat.pow 2 scale.toNat
    else num * Nat.pow 2 (-scale).toNat < den
  max (if small then scale - 53 else scale - 52) (-1074)

/-- The double nearest to a positive quotient, unless it is too large for the format. -/
def ofQuotient? (negative : Bool) (num den : Nat) : Option Binary64 :=
  let exponent := exponentFor num den
  if 0 ≤ exponent then
    let significand := roundQuotient num (den * Nat.pow 2 exponent.toNat)
    if significand * Nat.pow 2 exponent.toNat < Nat.pow 2 1024 then
      some ⟨negative, significand, exponent⟩
    else none
  else some ⟨negative, roundQuotient (num * Nat.pow 2 (-exponent).toNat) den, exponent⟩

/-- The double nearest to `num * 2 ^ scale / den`, unless it is too large for the format. -/
def ofScaled? (negative : Bool) (num den : Nat) (scale : Int) : Option Binary64 :=
  if num = 0 then some ⟨negative, 0, 0⟩
  else if 0 ≤ scale then ofQuotient? negative (num * Nat.pow 2 scale.toNat) den
  else ofQuotient? negative num (den * Nat.pow 2 (-scale).toNat)

def ofNat? (n : Nat) : Option Binary64 := ofScaled? false n 1 0

def mul? (x y : Binary64) : Option Binary64 :=
  ofScaled? (x.negative != y.negative) (x.significand * y.significand) 1 (x.exponent + y.exponent)

/-- The rounded quotient, of which there is none by zero. -/
def div? (x y : Binary64) : Option Binary64 :=
  if y.significand = 0 then none
  else ofScaled? (x.negative != y.negative) x.significand y.significand (x.exponent - y.exponent)

def toInt? (x : Binary64) : Option Int :=
  let sign (magnitude : Nat) : Int := if x.negative then -magnitude else magnitude
  if 0 ≤ x.exponent then some (sign (x.significand * Nat.pow 2 x.exponent.toNat))
  else if x.significand % Nat.pow 2 (-x.exponent).toNat = 0 then
    some (sign (x.significand / Nat.pow 2 (-x.exponent).toNat))
  else none

end Binary64

end IdentityForms
