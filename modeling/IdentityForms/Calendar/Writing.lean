import IdentityForms.Calendar.Moment

/-! The text of dates and moments in UTC. -/
namespace IdentityForms

def padded (width n : Nat) : String :=
  .ofList ((Nat.toDigits 10 n).leftpad width '0')

namespace Date

/-- Four digits for a year from 0 to 9999, otherwise a sign and at least four. -/
def yearText (year : Int) : String :=
  if 0 ≤ year ∧ year ≤ 9999 then padded 4 year.natAbs
  else (if year < 0 then "-" else "+") ++ padded 4 year.natAbs

def textOfParts (year : Int) (month day : Nat) : String :=
  yearText year ++ "-" ++ padded 2 month ++ "-" ++ padded 2 day

def text (date : Date) : String := textOfParts date.year date.month date.day

end Date

def TimeOfDay.textOfParts (hour minute second : Nat) : String :=
  padded 2 hour ++ ":" ++ padded 2 minute ++ ":" ++ padded 2 second

namespace Moment

/-- Nothing, or a point and three, six or nine digits. -/
def fractionText (nanos : Nat) : String :=
  if nanos = 0 then ""
  else if nanos % 1000000 = 0 then "." ++ padded 3 (nanos / 1000000)
  else if nanos % 1000 = 0 then "." ++ padded 6 (nanos / 1000)
  else "." ++ padded 9 nanos

/-- The date and time in UTC. The latter half of a long second has the number after it. -/
def text (moment : Moment) : String :=
  let (year, month, day) := Date.partsOf (moment.seconds / 86400)
  let second := (moment.seconds % 86400).toNat
  let leap := moment.nanos / 1000000000
  Date.textOfParts year month day ++ "T" ++
    TimeOfDay.textOfParts (second / 3600) (second / 60 % 60) (second % 60 + leap) ++
    fractionText (moment.nanos % 1000000000) ++ "Z"

end Moment

end IdentityForms
