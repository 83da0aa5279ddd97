import IdentityForms.Calendar.Date

/-! Moments: seconds from 1970-01-01T00:00:00Z and nanoseconds. The second before a full
minute may hold up to two thousand million nanoseconds; the latter half is a leap second. -/
namespace IdentityForms

structure Moment where
  seconds : Int
  nanos : Nat
  deriving DecidableEq

/-- A reading of the clock within one day. -/
structure TimeOfDay where
  hour : Nat
  minute : Nat
  second : Nat
  hour_lt : hour < 24
  minute_lt : minute < 60
  second_le : second ≤ 60
  deriving DecidableEq

namespace TimeOfDay

def ofParts? (hour minute second : Nat) : Option TimeOfDay :=
  if h : hour < 24 ∧ minute < 60 ∧ second ≤ 60 then
    some ⟨hour, minute, second, h.1, h.2.1, h.2.2⟩
  else none

def midnight : TimeOfDay := ⟨0, 0, 0, by decide, by decide, by decide⟩

@[simp] theorem ofParts?_parts (time : TimeOfDay) :
    ofParts? time.hour time.minute time.second = some time := by
  simp [ofParts?, time.hour_lt, time.minute_lt, time.second_le]

theorem ofParts?_eq_some {hour minute second : Nat} {time : TimeOfDay} :
    ofParts? hour minute second = some time ↔
      hour = time.hour ∧ minute = time.minute ∧ second = time.second := by
  constructor
  · intro h
    unfold ofParts? at h
    split at h
    · cases h
      exact ⟨rfl, rfl, rfl⟩
    · cases h
  · rintro ⟨rfl, rfl, rfl⟩
    exact ofParts?_parts time

end TimeOfDay

namespace Moment

instance : LT Moment where
  lt left right := left.seconds < right.seconds ∨
    left.seconds = right.seconds ∧ left.nanos < right.nanos

instance : LE Moment where
  le left right := left.seconds < right.seconds ∨
    left.seconds = right.seconds ∧ left.nanos ≤ right.nanos

theorem lt_iff {left right : Moment} : left < right ↔ left.seconds < right.seconds ∨
    left.seconds = right.seconds ∧ left.nanos < right.nanos := Iff.rfl

theorem le_iff {left right : Moment} : left ≤ right ↔ left.seconds < right.seconds ∨
    left.seconds = right.seconds ∧ left.nanos ≤ right.nanos := Iff.rfl

theorem not_lt {left right : Moment} : ¬ left < right ↔ right ≤ left := by
  simp only [lt_iff, le_iff]
  omega

theorem lt_of_lt_of_le {first second third : Moment} (h : first < second) (h' : second ≤ third) :
    first < third := by
  simp only [lt_iff, le_iff] at *
  omega

theorem lt_of_le_of_lt {first second third : Moment} (h : first ≤ second) (h' : second < third) :
    first < third := by
  simp only [lt_iff, le_iff] at *
  omega

instance (left right : Moment) : Decidable (left < right) :=
  decidable_of_iff' _ lt_iff

instance (left right : Moment) : Decidable (left ≤ right) :=
  decidable_of_iff' _ le_iff

/-- The moment of a local date and time that runs `offset` minutes ahead of UTC. A sixtieth
second is the fifty-ninth prolonged. -/
def ofLocal (date : Date) (time : TimeOfDay) (nanos : Nat) (offset : Int) : Moment where
  seconds := 86400 * date.dayNumber + 3600 * time.hour + 60 * time.minute
    + min time.second 59 - 60 * offset
  nanos := (if time.second = 60 then 1000000000 else 0) + nanos

end Moment

end IdentityForms
