/-! The proleptic Gregorian calendar: years count through zero, and every date has a
number of days from 1970-01-01. -/
namespace IdentityForms

/-- Every fourth year leaps, except the centuries that 400 does not divide. -/
def leapYear (year : Int) : Bool :=
  year % 4 = 0 && (year % 100 ≠ 0 || year % 400 = 0)

def daysInMonth (year : Int) : Nat → Nat
  | 2 => if leapYear year then 29 else 28
  | 4 | 6 | 9 | 11 => 30
  | _ => 31

/-- A date of the calendar within the range of years that moments cover. -/
structure Date where
  year : Int
  month : Nat
  day : Nat
  year_range : -262143 ≤ year ∧ year ≤ 262142
  month_range : 1 ≤ month ∧ month ≤ 12
  day_range : 1 ≤ day ∧ day ≤ daysInMonth year month
  deriving DecidableEq

namespace Date

def ofParts? (year : Int) (month day : Nat) : Option Date :=
  if h : (-262143 ≤ year ∧ year ≤ 262142) ∧ (1 ≤ month ∧ month ≤ 12) ∧
      (1 ≤ day ∧ day ≤ daysInMonth year month) then
    some ⟨year, month, day, h.1, h.2.1, h.2.2⟩
  else none

@[simp] theorem ofParts?_parts (date : Date) :
    ofParts? date.year date.month date.day = some date := by
  simp [ofParts?, date.year_range, date.month_range, date.day_range]

theorem ofParts?_eq_some {year : Int} {month day : Nat} {date : Date} :
    ofParts? year month day = some date ↔
      year = date.year ∧ month = date.month ∧ day = date.day := by
  constructor
  · intro h
    unfold ofParts? at h
    split at h
    · cases h
      exact ⟨rfl, rfl, rfl⟩
    · cases h
  · rintro ⟨rfl, rfl, rfl⟩
    exact ofParts?_parts date

def daysBeforeMonth (year : Int) : Nat → Nat
  | 0 | 1 => 0
  | month + 2 => daysBeforeMonth year (month + 1) + daysInMonth year (month + 1)

/-- The days from 1970-01-01 to the first day of a year. -/
def newYear (year : Int) : Int :=
  365 * (year - 1) + (year - 1) / 4 - (year - 1) / 100 + (year - 1) / 400 - 719162

theorem newYear_add_one (year : Int) :
    newYear (year + 1) = newYear year + if leapYear year then 366 else 365 := by
  simp only [newYear, leapYear, ne_eq, decide_not, Bool.and_eq_true, Bool.or_eq_true,
    decide_eq_true_eq]
  split <;> simp at * <;> omega

/-- The days from 1970-01-01, negative before it. -/
def dayNumber (date : Date) : Int :=
  newYear date.year + daysBeforeMonth date.year date.month + (date.day - 1)

/-- The year in which a day lies. The mean length of a year places it within one year. -/
def yearOf (day : Int) : Int :=
  let guess := 1970 + 400 * day / 146097
  if day < newYear guess then guess - 1
  else if newYear (guess + 1) ≤ day then guess + 1
  else guess

/-- The month and the day of the month of a day counted from zero through the months. -/
def monthAndDay (year : Int) : List Nat → Nat → Nat × Nat
  | [], day => (12, day + 1)
  | month :: months, day =>
    if day < daysInMonth year month then (month, day + 1)
    else monthAndDay year months (day - daysInMonth year month)

def partsOf (day : Int) : Int × Nat × Nat :=
  let year := yearOf day
  (year, monthAndDay year (List.range' 1 12) (day - newYear year).toNat)

end Date

end IdentityForms
