import IdentityForms.Calendar.Moment

/-! Days and times of the day in the order of the calendar. The number of a day counts the steps of
the calendar from 1970-01-01, so that the moments at which clocks show dates and times stand in the
order of these dates and times. -/
namespace IdentityForms

namespace Date

def epoch : Date := ⟨1970, 1, 1, by decide, by decide, by decide⟩

/-- The next day is in the same month, the next month or the next year. After the last date that
moments cover there is none. -/
def next? (date : Date) : Option Date :=
  if date.day < daysInMonth date.year date.month then ofParts? date.year date.month (date.day + 1)
  else if date.month < 12 then ofParts? date.year (date.month + 1) 1
  else ofParts? (date.year + 1) 1 1

instance : LT Date where
  lt left right := left.year < right.year ∨ left.year = right.year ∧
    (left.month < right.month ∨ left.month = right.month ∧ left.day < right.day)

variable {date left right : Date} {year : Int} {month : Nat}

theorem lt_iff : left < right ↔ left.year < right.year ∨ left.year = right.year ∧
    (left.month < right.month ∨ left.month = right.month ∧ left.day < right.day) := Iff.rfl

instance (left right : Date) : Decidable (left < right) := decidable_of_iff' _ lt_iff

theorem ext_parts (hyear : left.year = right.year) (hmonth : left.month = right.month)
    (hday : left.day = right.day) : left = right := by
  cases left
  cases right
  cases hyear
  cases hmonth
  cases hday
  rfl

theorem lt_trichotomy (left right : Date) : left < right ∨ left = right ∨ right < left := by
  rcases Int.lt_trichotomy left.year right.year with hyear | hyear | hyear
  · exact .inl (.inl hyear)
  · rcases Nat.lt_trichotomy left.month right.month with hmonth | hmonth | hmonth
    · exact .inl (.inr ⟨hyear, .inl hmonth⟩)
    · rcases Nat.lt_trichotomy left.day right.day with hday | hday | hday
      · exact .inl (.inr ⟨hyear, .inr ⟨hmonth, hday⟩⟩)
      · exact .inr (.inl (ext_parts hyear hmonth hday))
      · exact .inr (.inr (.inr ⟨hyear.symm, .inr ⟨hmonth.symm, hday⟩⟩))
    · exact .inr (.inr (.inr ⟨hyear.symm, .inl hmonth⟩))
  · exact .inr (.inr (.inl hyear))

theorem daysBeforeMonth_succ (h : 1 ≤ month) :
    daysBeforeMonth year (month + 1) = daysBeforeMonth year month + daysInMonth year month := by
  obtain ⟨month, rfl⟩ := Nat.exists_eq_add_of_le' h
  rfl

theorem daysBeforeMonth_december (year : Int) :
    daysBeforeMonth year 12 + 31 = if leapYear year then 366 else 365 := by
  simp only [daysBeforeMonth, daysInMonth]
  split <;> rfl

theorem daysBeforeMonth_mono {other : Nat} (hmonth : 1 ≤ month) (h : month ≤ other) :
    daysBeforeMonth year month ≤ daysBeforeMonth year other := by
  induction h with
  | refl => exact Nat.le_refl _
  | step h ih =>
    rw [daysBeforeMonth_succ (Nat.le_trans hmonth h)]
    exact Nat.le_add_right_of_le ih

/-- A month ends before a later one of the same year begins. -/
theorem daysBeforeMonth_add_le {other : Nat} (hmonth : 1 ≤ month) (h : month < other) :
    daysBeforeMonth year month + daysInMonth year month ≤ daysBeforeMonth year other := by
  rw [← daysBeforeMonth_succ hmonth]
  exact daysBeforeMonth_mono (Nat.le_add_left 1 month) h

theorem newYear_mono {other : Int} (h : year ≤ other) : newYear year ≤ newYear other := by
  simp only [newYear]
  omega

theorem daysInMonth_pos : 1 ≤ daysInMonth year month := by
  unfold daysInMonth
  split
  · split <;> decide
  all_goals decide

theorem daysInMonth_le : daysInMonth year month ≤ 31 := by
  unfold daysInMonth
  split
  · split <;> decide
  all_goals decide

/-- The place of a date in its year, counted from one. -/
theorem daysBeforeMonth_add_day_le (date : Date) :
    daysBeforeMonth date.year date.month + date.day ≤ if leapYear date.year then 366 else 365 := by
  have hday := date.day_range.2
  rw [← daysBeforeMonth_december]
  rcases Nat.lt_or_eq_of_le date.month_range.2 with hmonth | hmonth
  · have hend : daysBeforeMonth date.year date.month + daysInMonth date.year date.month ≤
        daysBeforeMonth date.year 12 := daysBeforeMonth_add_le date.month_range.1 hmonth
    omega
  · rw [hmonth] at hday ⊢
    exact Nat.add_le_add_left hday _

theorem dayNumber_lt_newYear (date : Date) : date.dayNumber < newYear (date.year + 1) := by
  have hday := date.daysBeforeMonth_add_day_le
  rw [newYear_add_one, dayNumber]
  split at hday
  · next hleap =>
    rw [if_pos hleap]
    omega
  · next hcommon =>
    rw [if_neg hcommon]
    omega

theorem dayNumber_lt_of_lt (h : left < right) : left.dayNumber < right.dayNumber := by
  rcases h with hyear | ⟨hyear, hmonth | ⟨hmonth, hday⟩⟩
  · have hend := left.dayNumber_lt_newYear
    have hbegin : newYear (left.year + 1) ≤ newYear right.year := newYear_mono hyear
    have hright := right.day_range.1
    simp only [dayNumber] at hend ⊢
    omega
  · have hend : daysBeforeMonth left.year left.month + daysInMonth left.year left.month ≤
        daysBeforeMonth left.year right.month := daysBeforeMonth_add_le left.month_range.1 hmonth
    have hleft := left.day_range.2
    have hright := right.day_range.1
    simp only [dayNumber, ← hyear]
    omega
  · simp only [dayNumber, hyear, hmonth]
    omega

theorem dayNumber_lt_iff : left.dayNumber < right.dayNumber ↔ left < right := by
  refine ⟨fun h => ?_, dayNumber_lt_of_lt⟩
  rcases lt_trichotomy left right with hlt | rfl | hgt
  · exact hlt
  · exact absurd h (Int.lt_irrefl _)
  · exact absurd (dayNumber_lt_of_lt hgt) (Int.lt_asymm h)

theorem dayNumber_inj : left.dayNumber = right.dayNumber ↔ left = right := by
  refine ⟨fun h => ?_, fun h => h ▸ rfl⟩
  rcases lt_trichotomy left right with hlt | heq | hgt
  · exact absurd h (Int.ne_of_lt (dayNumber_lt_of_lt hlt))
  · exact heq
  · exact absurd h.symm (Int.ne_of_lt (dayNumber_lt_of_lt hgt))

theorem dayNumber_epoch : epoch.dayNumber = 0 := by decide

/-- A date stands in the middle of its month, at the end of it or at the end of its year. -/
theorem next?_cases (date : Date) :
    date.day < daysInMonth date.year date.month ∧
      date.next? = ofParts? date.year date.month (date.day + 1) ∨
    date.day = daysInMonth date.year date.month ∧ date.month < 12 ∧
      date.next? = ofParts? date.year (date.month + 1) 1 ∨
    date.day = 31 ∧ date.month = 12 ∧ date.next? = ofParts? (date.year + 1) 1 1 := by
  have hday := date.day_range.2
  have hmonth := date.month_range.2
  unfold next?
  split
  · next h => exact .inl ⟨h, rfl⟩
  · next h =>
    have hlast : date.day = daysInMonth date.year date.month := by omega
    split
    · next h' => exact .inr (.inl ⟨hlast, h', rfl⟩)
    · next h' =>
      have hdecember : date.month = 12 := by omega
      rw [hdecember] at hlast
      exact .inr (.inr ⟨hlast, hdecember, rfl⟩)

theorem dayNumber_next? {next : Date} (h : date.next? = some next) :
    next.dayNumber = date.dayNumber + 1 := by
  rcases date.next?_cases with ⟨-, hnext⟩ | ⟨hlast, -, hnext⟩ | ⟨hlast, hdecember, hnext⟩
  · obtain ⟨hyear, hmonth, hday⟩ := ofParts?_eq_some.mp (hnext.symm.trans h)
    simp only [dayNumber, ← hyear, ← hmonth, ← hday]
    omega
  · obtain ⟨hyear, hmonth, hday⟩ := ofParts?_eq_some.mp (hnext.symm.trans h)
    simp only [dayNumber, ← hyear, ← hmonth, ← hday, daysBeforeMonth_succ date.month_range.1, hlast]
    omega
  · obtain ⟨hyear, hmonth, hday⟩ := ofParts?_eq_some.mp (hnext.symm.trans h)
    have hlength := daysBeforeMonth_december date.year
    rw [dayNumber, dayNumber, ← hyear, ← hmonth, ← hday, newYear_add_one, hlast, hdecember]
    split at hlength
    · next hleap =>
      rw [if_pos hleap, daysBeforeMonth]
      omega
    · next hcommon =>
      rw [if_neg hcommon, daysBeforeMonth]
      omega

theorem ofParts?_eq_none {month day : Nat} : ofParts? year month day = none ↔
    ¬ ((-262143 ≤ year ∧ year ≤ 262142) ∧ (1 ≤ month ∧ month ≤ 12) ∧
      (1 ≤ day ∧ day ≤ daysInMonth year month)) := by
  unfold ofParts?
  split <;> simp_all

theorem next?_eq_none : date.next? = none ↔
    date.year = 262142 ∧ date.month = 12 ∧ date.day = 31 := by
  have hyear := date.year_range
  have hmonth := date.month_range
  rcases date.next?_cases with ⟨hday, hnext⟩ | ⟨-, hearly, hnext⟩ | ⟨hlast, hdecember, hnext⟩
  · have hnone : ¬ (date.month = 12 ∧ date.day = 31) := by
      rintro ⟨hdecember, hlast⟩
      rw [hdecember, hlast] at hday
      exact Nat.lt_irrefl 31 hday
    rw [hnext, ofParts?_eq_none]
    omega
  · have hpos : 1 ≤ daysInMonth date.year (date.month + 1) := daysInMonth_pos
    rw [hnext, ofParts?_eq_none]
    omega
  · have hpos : 1 ≤ daysInMonth (date.year + 1) 1 := daysInMonth_pos
    rw [hnext, ofParts?_eq_none]
    omega

end Date

namespace TimeOfDay

instance : LT TimeOfDay where
  lt left right := left.hour < right.hour ∨ left.hour = right.hour ∧
    (left.minute < right.minute ∨ left.minute = right.minute ∧ left.second < right.second)

theorem lt_iff {left right : TimeOfDay} : left < right ↔ left.hour < right.hour ∨
    left.hour = right.hour ∧
      (left.minute < right.minute ∨ left.minute = right.minute ∧ left.second < right.second) :=
  Iff.rfl

instance (left right : TimeOfDay) : Decidable (left < right) := decidable_of_iff' _ lt_iff

end TimeOfDay

namespace Moment

/-- A prolonged second is later than all of its minute and earlier than all of the next. -/
theorem ofLocal_lt_ofLocal {date other : Date} {time otherTime : TimeOfDay} :
    ofLocal date time 0 0 < ofLocal other otherTime 0 0 ↔
      date < other ∨ date = other ∧ time < otherTime := by
  have hminute := time.minute_lt
  have hsecond := time.second_le
  have hhour := time.hour_lt
  have hhour' := otherTime.hour_lt
  have hminute' := otherTime.minute_lt
  have hsecond' := otherTime.second_le
  rw [← Date.dayNumber_lt_iff, ← Date.dayNumber_inj, TimeOfDay.lt_iff, Moment.lt_iff]
  simp only [ofLocal]
  split <;> split <;> omega

end Moment

end IdentityForms
