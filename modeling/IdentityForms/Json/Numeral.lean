import IdentityForms.Json.Basic

/-! Numerals and the numbers that they are read as. What is not an integer of 64 bits is read as a
double, in two steps that round: the leading digits are taken together as a significand of 64 bits,
and this is multiplied or divided by a power of ten. -/
namespace IdentityForms

namespace Binary64

def powerOfTen? (places : Nat) : Option Binary64 := ofNat? (Nat.pow 10 places)

/-- A double times a power of ten. No power beyond the range of doubles is multiplied by. -/
def raise? (x : Binary64) (places : Nat) : Option Binary64 :=
  if places ≤ 308 then (powerOfTen? places).bind x.mul?
  else if x.significand = 0 then some x
  else none

/-- A double over a power of ten. A power beyond the range of doubles is divided by in steps, until
nothing is left. -/
def lower? (x : Binary64) (places : Nat) : Option Binary64 :=
  if places ≤ 308 then (powerOfTen? places).bind x.div?
  else if x.significand = 0 then some x
  else do
    let lowered ← (powerOfTen? 308).bind x.div?
    lowered.lower? (places - 308)
termination_by places

def ofParts? (significand : Nat) (exponent : Int) : Option Binary64 := do
  let x ← ofNat? significand
  if 0 ≤ exponent then x.raise? exponent.toNat else x.lower? (-exponent).toNat

end Binary64

namespace Json

/-- A number as it is written: the digits before and after the point, and the exponent. -/
structure Numeral where
  negative : Bool
  whole : List Char
  fraction : List Char
  exponent : Option Int
  deriving DecidableEq

namespace Numeral

def isInteger (numeral : Numeral) : Bool := numeral.fraction = [] && numeral.exponent = none

/-- Takes digits into a significand until it would exceed 64 bits. The digits left are counted. -/
def gather (significand : Nat) : (digits : List Char) → Nat × Nat
  | [] => (significand, 0)
  | c :: rest =>
    let longer := 10 * significand + (c.toNat - '0'.toNat)
    if longer < Nat.pow 2 64 then gather longer rest else (significand, rest.length + 1)

/-- The significand of a numeral and its power of ten. A digit left before the point moves the point
by a place, and one left behind it is dropped. -/
def parts (numeral : Numeral) : Nat × Int :=
  let (whole, left) := gather 0 numeral.whole
  let (significand, dropped) := gather whole numeral.fraction
  let taken := numeral.fraction.length - dropped
  (significand, left - taken + numeral.exponent.getD 0)

/-- The double of a numeral. An exponent beyond 32 bits leaves nothing or is out of range. -/
def toBinary64? (numeral : Numeral) : Option Binary64 :=
  let (significand, exponent) := numeral.parts
  let written := numeral.exponent.getD 0
  let magnitude? :=
    if written.natAbs < Nat.pow 2 31 then Binary64.ofParts? significand exponent
    else if significand = 0 ∨ written < 0 then Binary64.ofNat? 0
    else none
  magnitude?.map fun x => { x with negative := numeral.negative }

/-- The number of a numeral. Without a point or an exponent it is an integer if it fits 64
bits; minus zero and all others are doubles. There is none beyond the range of doubles. -/
def toNumber? (numeral : Numeral) : Option Number :=
  let magnitude := Nat.ofDigitChars 10 numeral.whole 0
  if numeral.isInteger ∧ numeral.negative = false ∧ magnitude < Nat.pow 2 64 then
    some (.integer magnitude)
  else if numeral.isInteger ∧ numeral.negative = true ∧ 0 < magnitude ∧
      magnitude ≤ Nat.pow 2 63 then
    some (.integer (-magnitude))
  else numeral.toBinary64?.map .binary

end Numeral

end Json

end IdentityForms
