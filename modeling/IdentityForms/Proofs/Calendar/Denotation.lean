import IdentityForms.Calendar.Writing
import IdentityForms.Proofs.Calendar.Days
import IdentityForms.Proofs.Calendar.Exclusion
import IdentityForms.Proofs.Rule.Digits

/-! Written dates and times denote the moments that the calendar gives them, and the rules on dates
compare them as these moments. -/
namespace IdentityForms

def TimeOfDay.text (time : TimeOfDay) : String := textOfParts time.hour time.minute time.second

namespace Moment

/-- The digits after the point of a second; where there are none, the point is left out. -/
structure Fraction where
  digits : List Char
  isDigit_of_mem : ∀ c ∈ digits, c.isDigit

namespace Fraction

def text (fraction : Fraction) : String :=
  if fraction.digits = [] then "" else .ofList ('.' :: fraction.digits)

/-- The number that the first nine digits make, with zeros for those that lack. -/
def nanos (fraction : Fraction) : Nat :=
  Nat.ofDigitChars 10 ((fraction.digits.take 9).rightpad 9 '0') 0

end Fraction

/-- How a stamp says where its clock stands: at UTC, or hours and minutes away from it. -/
inductive Zone where
  | utc
  | ahead (hours : Fin 24) (minutes : Fin 60)
  | behind (hours : Fin 24) (minutes : Fin 60)

namespace Zone

def text : Zone → String
  | utc => "Z"
  | ahead hours minutes => "+" ++ padded 2 hours ++ ":" ++ padded 2 minutes
  | behind hours minutes => "-" ++ padded 2 hours ++ ":" ++ padded 2 minutes

/-- By how many minutes the clock is ahead of UTC. -/
def minutes : Zone → Int
  | utc => 0
  | ahead hours minutes => 60 * hours.val + minutes.val
  | behind hours minutes => -(60 * hours.val + minutes.val)

end Zone

/-- A text is read as a moment, and the rules on dates compare it as this moment. -/
structure Denotes (text : String) (moment : Moment) : Prop where
  reading : ofText? text = some moment
  past (now : Moment) :
    Rule.past.failure? text now = if moment < now then none else some .notPast
  future (now : Moment) :
    Rule.future.failure? text now = if now < moment then none else some .notFuture

variable {width n : Nat} {text : String} {moment : Moment}

theorem toList_padded (width n : Nat) :
    (padded width n).toList = (Nat.toDigits 10 n).leftpad width '0' := String.toList_ofList

theorem digitRun_padded (width n : Nat) : DigitRun (padded width n).toList := by
  rw [toList_padded, List.leftpad]
  obtain ⟨hne, hdigits⟩ := digitRun_toDigits n
  refine ⟨List.append_ne_nil_of_right_ne_nil _ hne, ?_⟩
  intro c hc
  rcases List.mem_append.mp hc with hc | hc
  · rw [List.eq_of_mem_replicate hc]
    rfl
  · exact hdigits c hc

theorem ofDigitChars_padded (width n : Nat) :
    Nat.ofDigitChars 10 (padded width n).toList 0 = n := by
  rw [toList_padded, List.leftpad, Nat.ofDigitChars_append, Nat.ofDigitChars_replicate_zero,
    Nat.mul_zero, Nat.ofDigitChars_ten_toDigits]

theorem length_padded (hwidth : 0 < width) (h : n < Nat.pow 10 width) :
    (padded width n).toList.length = width := by
  have hle := (Nat.length_toDigits_le_iff (b := 10) (by decide) hwidth).mpr h
  rw [toList_padded, List.leftpad, List.length_append, List.length_replicate]
  exact Nat.sub_add_cancel hle

theorem fixedNumber?_padded (hwidth : 0 < width) (h : n < Nat.pow 10 width) (rest : List Char) :
    fixedNumber? width ((padded width n).toList ++ rest) = some (n, rest) :=
  fixedNumber?_eq_some.mpr ⟨_, rfl, length_padded hwidth h, (digitRun_padded width n).2,
    (ofDigitChars_padded width n).symm⟩

theorem fixedNumber?_two {n : Nat} (h : n < 100) (rest : List Char) :
    fixedNumber? 2 ((padded 2 n).toList ++ rest) = some (n, rest) :=
  fixedNumber?_padded (by decide) h rest

theorem number?_padded (width n : Nat) {c : Char} (hc : c.isDigit = false) (rest : List Char) :
    number? ((padded width n).toList ++ c :: rest) = some (n, c :: rest) := by
  have hrun := digitRun_padded width n
  unfold number?
  dsimp only
  rw [hrun.takeWhile_append hc, hrun.dropWhile_append hc, if_neg hrun.1, ofDigitChars_padded]

theorem rigidYear?_yearText {year : Int} (h : 0 ≤ year ∧ year ≤ 9999) (rest : List Char) :
    rigidYear? ((Date.yearText year).toList ++ rest) = some (year, rest) := by
  have hlt : year.natAbs < 10000 := by omega
  have hnumber : fixedNumber? 4 ((padded 4 year.natAbs).toList ++ rest) =
      some (year.natAbs, rest) := fixedNumber?_padded (by decide) hlt rest
  rw [Date.yearText, if_pos h]
  exact rigidYear?_eq_some.mpr ⟨_, hnumber, (Int.natAbs_of_nonneg h.1).symm⟩

theorem looseYear?_minus (text : List Char) : looseYear? ('-' :: text) =
    (number? text).map fun (year, text) => (-(year : Int), text) := rfl

theorem looseYear?_plus (text : List Char) : looseYear? ('+' :: text) =
    (number? text).map fun (year, text) => ((year : Int), text) := rfl

/-- A year outside the four digits has its sign, after which its digits end at the dash. -/
theorem looseYear?_yearText (year : Int) (rest : List Char) :
    looseYear? ((Date.yearText year).toList ++ '-' :: rest) = some (year, '-' :: rest) := by
  by_cases hshort : 0 ≤ year ∧ year ≤ 9999
  · exact agrees_looseYear? _ _ (rigidYear?_yearText hshort _)
  · have hnumber := number?_padded 4 year.natAbs (c := '-') rfl rest
    rw [Date.yearText, if_neg hshort, String.toList_append, List.append_assoc]
    by_cases hnegative : year < 0
    · have hyear : -(year.natAbs : Int) = year := by omega
      rw [if_pos hnegative, show "-".toList = ['-'] from rfl, List.singleton_append,
        looseYear?_minus, hnumber, Option.map_some]
      dsimp only
      rw [hyear]
    · have hyear : (year.natAbs : Int) = year := by omega
      rw [if_neg hnegative, show "+".toList = ['+'] from rfl, List.singleton_append,
        looseYear?_plus, hnumber, Option.map_some]
      dsimp only
      rw [hyear]

/-- Dates are written as a year, which either form reads, and numbers of two digits. -/
theorem dateBy_text {year : Scanner Int} {number : Scanner Nat} (date : Date) (rest : List Char)
    (hyear : ∀ rest, year ((Date.yearText date.year).toList ++ '-' :: rest) =
      some (date.year, '-' :: rest))
    (hnumber : Agrees (fixedNumber? 2) number) :
    dateBy year number (date.text.toList ++ rest) = some (date, rest) := by
  have hmonth := date.month_range.2
  have hday : date.day ≤ 31 := Nat.le_trans date.day_range.2 Date.daysInMonth_le
  rw [dateBy_eq_some]
  refine ⟨(padded 2 date.month).toList ++ '-' :: ((padded 2 date.day).toList ++ rest),
    (padded 2 date.day).toList ++ rest, ?_, ?_, ?_⟩
  · rw [← hyear]
    simp [Date.text, Date.textOfParts]
  · exact hnumber _ _ (fixedNumber?_two (by omega) _)
  · exact hnumber _ _ (fixedNumber?_two (by omega) _)

theorem looseDate?_text (date : Date) (rest : List Char) :
    looseDate? (date.text.toList ++ rest) = some (date, rest) := by
  rw [looseDate?_eq]
  exact dateBy_text date rest (looseYear?_yearText date.year) agrees_looseNumber?

theorem rigidDate?_text {date : Date} (h : 0 ≤ date.year ∧ date.year ≤ 9999) (rest : List Char) :
    rigidDate? (date.text.toList ++ rest) = some (date, rest) :=
  dateBy_text date rest (fun _ => rigidYear?_yearText h _) fun _ _ h => h

theorem rigidTime?_text (time : TimeOfDay) (rest : List Char) :
    rigidTime? (time.text.toList ++ rest) = some (time, rest) := by
  have hhour := time.hour_lt
  have hminute := time.minute_lt
  have hsecond := time.second_le
  unfold rigidTime?
  rw [timeBy_eq_some]
  refine ⟨(padded 2 time.minute).toList ++ ':' :: ((padded 2 time.second).toList ++ rest),
    (padded 2 time.second).toList ++ rest, ?_, ?_, ?_⟩
  · rw [← fixedNumber?_two (by omega)]
    simp [TimeOfDay.text, TimeOfDay.textOfParts]
  · exact fixedNumber?_two (by omega) _
  · exact fixedNumber?_two (by omega) _

theorem looseTime?_text (time : TimeOfDay) (rest : List Char) :
    looseTime? (time.text.toList ++ rest) = some (time, rest) :=
  agrees_looseTime? _ _ (rigidTime?_text time rest)

/-- Digits that lack at the end of the first nine are zeros. -/
theorem Fraction.nanos_eq (fraction : Fraction) : fraction.nanos =
    Nat.ofDigitChars 10 (fraction.digits.take 9) 0 *
      Nat.pow 10 (9 - (fraction.digits.take 9).length) := by
  rw [Fraction.nanos, List.rightpad, Nat.ofDigitChars_append, Nat.ofDigitChars_replicate_zero,
    Nat.mul_comm]
  rfl

theorem fraction?_text (fraction : Fraction) {c : Char} (hdigit : c.isDigit = false)
    (hpoint : c ≠ '.') (rest : List Char) :
    fraction? (fraction.text.toList ++ c :: rest) = some (fraction.nanos, c :: rest) := by
  by_cases hnone : fraction.digits = []
  · rw [Fraction.nanos_eq, Fraction.text, if_pos hnone, hnone]
    unfold fraction?
    split
    · next heq => exact absurd (List.cons.inj heq).1 hpoint
    · rfl
  · have hrun : DigitRun fraction.digits := ⟨hnone, fraction.isDigit_of_mem⟩
    rw [Fraction.text, if_neg hnone, String.toList_ofList, List.cons_append, fraction?]
    dsimp only
    rw [hrun.takeWhile_append hdigit, hrun.dropWhile_append hdigit, if_neg hnone, Fraction.nanos_eq]

theorem offset?_signed {sign : Char} (hsign : ¬ (sign = 'Z' ∨ sign = 'z')) (hours : Fin 24)
    (minutes : Fin 60) :
    offset? (sign :: ((padded 2 hours).toList ++ ':' :: (padded 2 minutes).toList)) =
      if sign = '+' then some ((60 * hours.val + minutes.val : Int), [])
      else if sign = '-' ∨ sign = '−' then some (-(60 * hours.val + minutes.val : Int), [])
      else none := by
  have hhours : fixedNumber? 2 ((padded 2 hours).toList ++ ':' :: (padded 2 minutes).toList) =
      some (↑hours, ':' :: (padded 2 minutes).toList) := fixedNumber?_two (by omega) _
  have hminutes : fixedNumber? 2 ((padded 2 minutes).toList ++ []) = some (↑minutes, []) :=
    fixedNumber?_two (by omega) []
  have hrange : ¬ ¬ ((hours : Nat) < 24 ∧ (minutes : Nat) < 60) :=
    not_not_intro ⟨hours.isLt, minutes.isLt⟩
  rw [List.append_nil] at hminutes
  simp only [offset?, if_neg hsign, hhours, Option.bind_eq_bind, Option.bind_some, literal?,
    if_true, hminutes, if_neg hrange]

theorem Zone.toList_text_ahead (hours : Fin 24) (minutes : Fin 60) :
    (ahead hours minutes).text.toList =
      '+' :: ((padded 2 hours).toList ++ ':' :: (padded 2 minutes).toList) := by
  simp [text]

theorem Zone.toList_text_behind (hours : Fin 24) (minutes : Fin 60) :
    (behind hours minutes).text.toList =
      '-' :: ((padded 2 hours).toList ++ ':' :: (padded 2 minutes).toList) := by
  simp [text]

theorem offset?_text (zone : Zone) : offset? zone.text.toList = some (zone.minutes, []) := by
  cases zone with
  | utc => rfl
  | ahead hours minutes =>
    rw [Zone.toList_text_ahead, offset?_signed (by decide), if_pos rfl, Zone.minutes]
  | behind hours minutes =>
    rw [Zone.toList_text_behind, offset?_signed (by decide), if_neg (by decide),
      if_pos (.inl rfl), Zone.minutes]

theorem denotes_of_ofText? (h : ofText? text = some moment) : Denotes text moment := by
  have hne : text ≠ "" := by
    rintro rfl
    have hempty : ofText? "" = none := by decide
    rw [hempty] at h
    cases h
  constructor
  · exact h
  · intro now
    simp [Rule.failure?, Rule.failureOfNonempty?, hne, h]
  · intro now
    simp [Rule.failure?, Rule.failureOfNonempty?, hne, h]

theorem Denotes.unique {other : Moment} (h : Denotes text moment) (h' : Denotes text other) :
    moment = other := Option.some.inj (h.reading.symm.trans h'.reading)

theorem Denotes.past_eq_none {now : Moment} (h : Denotes text moment) :
    Rule.past.failure? text now = none ↔ moment < now := by
  rw [h.past]
  split <;> simp_all

theorem Denotes.future_eq_none {now : Moment} (h : Denotes text moment) :
    Rule.future.failure? text now = none ↔ now < moment := by
  rw [h.future]
  split <;> simp_all

theorem denotes_date (date : Date) : Denotes date.text (ofLocal date .midnight 0 0) := by
  have hdate : looseDate? date.text.toList = some (date, []) := by
    rw [← looseDate?_text, List.append_nil]
  have hread := ofDate?_eq_some.mpr ⟨date, hdate, rfl⟩
  exact denotes_of_ofText? (ofText?_of_mem (by simp [readers]) hread)

theorem denotes_clock (date : Date) (time : TimeOfDay) :
    Denotes (date.text ++ "T" ++ time.text) (ofLocal date time 0 0) := by
  have htext : (date.text ++ "T" ++ time.text).toList =
      date.text.toList ++ 'T' :: time.text.toList := by simp
  have htime : looseTime? time.text.toList = some (time, []) := by
    rw [← looseTime?_text, List.append_nil]
  have hread : ofDateAndTime? (date.text ++ "T" ++ time.text).toList =
      some (ofLocal date time 0 0) := by
    rw [htext, ofDateAndTime?_eq_some]
    exact ⟨date, _, time, looseDate?_text date _, htime, rfl⟩
  exact denotes_of_ofText? (ofText?_of_mem (by simp [readers]) hread)

/-- What stands after a fraction is no digit and no point, so the fraction ends there. -/
theorem Zone.exists_cons (zone : Zone) : ∃ c rest, zone.text.toList = c :: rest ∧
    c.isDigit = false ∧ c ≠ '.' := by
  cases zone with
  | utc => exact ⟨'Z', [], rfl, rfl, by decide⟩
  | ahead hours minutes => exact ⟨'+', _, toList_text_ahead hours minutes, rfl, by decide⟩
  | behind hours minutes => exact ⟨'-', _, toList_text_behind hours minutes, rfl, by decide⟩

theorem denotes_stamp {date : Date} (h : 0 ≤ date.year ∧ date.year ≤ 9999) (time : TimeOfDay)
    (fraction : Fraction) (zone : Zone) :
    Denotes (date.text ++ "T" ++ time.text ++ fraction.text ++ zone.text)
      (ofLocal date time fraction.nanos zone.minutes) := by
  have htext : (date.text ++ "T" ++ time.text ++ fraction.text ++ zone.text).toList =
      date.text.toList ++
        'T' :: (time.text.toList ++ (fraction.text.toList ++ zone.text.toList)) := by simp
  have hfraction : fraction? (fraction.text.toList ++ zone.text.toList) =
      some (fraction.nanos, zone.text.toList) := by
    obtain ⟨c, rest, hzone, hdigit, hpoint⟩ := zone.exists_cons
    rw [hzone]
    exact fraction?_text fraction hdigit hpoint rest
  have hread : ofStamp? (date.text ++ "T" ++ time.text ++ fraction.text ++ zone.text).toList =
      some (ofLocal date time fraction.nanos zone.minutes) := by
    rw [htext, ofStamp?_eq_some]
    exact ⟨date, 'T', _, time, _, fraction.nanos, _, zone.minutes, .head _, rigidDate?_text h _,
      rigidTime?_text time _, hfraction, offset?_text zone, rfl⟩
  exact denotes_of_ofText? (ofText?_of_mem (by simp [readers]) hread)

/-- A date denotes its midnight, with the days counted from 1970-01-01 one for each step of the
calendar. A time counts from midnight, its sixtieth second as the fifty-ninth prolonged, and a
stamp takes the offset of its clock off and adds the fraction. Earlier and later are what the
calendar has as earlier and later. -/
theorem written_dates_denote (date : Date) (time : TimeOfDay) :
    let midnight : Int := 86400 * date.dayNumber
    let seconds : Int := midnight + 3600 * time.hour + 60 * time.minute + min time.second 59
    let excess : Nat := if time.second = 60 then 1000000000 else 0
    let clock := date.text ++ "T" ++ time.text
    Denotes date.text ⟨midnight, 0⟩ ∧
    Denotes clock ⟨seconds, excess⟩ ∧
    (0 ≤ date.year ∧ date.year ≤ 9999 → ∀ (fraction : Fraction) (zone : Zone),
      Denotes (clock ++ fraction.text ++ zone.text)
        ⟨seconds - 60 * zone.minutes, excess + fraction.nanos⟩) ∧
    Denotes "1970-01-01" ⟨0, 0⟩ ∧
    (∀ next, date.next? = some next → Denotes next.text ⟨midnight + 86400, 0⟩) ∧
    (date.next? = none ↔ date.year = 262142 ∧ date.month = 12 ∧ date.day = 31) ∧
    ∀ (other : Date) (otherTime : TimeOfDay) (now : Moment),
      Denotes (other.text ++ "T" ++ otherTime.text) now →
      (Rule.past.failure? clock now = none ↔ date < other ∨ date = other ∧ time < otherTime) ∧
      (Rule.future.failure? clock now = none ↔ other < date ∨ other = date ∧ otherTime < time) := by
  intro midnight seconds excess clock
  have hmidnight (date : Date) : ofLocal date .midnight 0 0 = ⟨86400 * date.dayNumber, 0⟩ := by
    simp [ofLocal, TimeOfDay.midnight]
  have hclock := denotes_clock date time
  refine ⟨?date, ?clock, ?stamp, ?epoch, ?next, Date.next?_eq_none, ?order⟩
  case date => exact hmidnight date ▸ denotes_date date
  case clock =>
    convert hclock using 1
    simp [ofLocal, seconds, excess, midnight]
  case stamp =>
    intro hyear fraction zone
    exact denotes_stamp hyear time fraction zone
  case epoch =>
    have hepoch := denotes_date Date.epoch
    rw [hmidnight, Date.dayNumber_epoch] at hepoch
    exact hepoch
  case next =>
    intro next hnext
    have hday := denotes_date next
    rw [hmidnight, Date.dayNumber_next? hnext, Int.mul_add] at hday
    exact hday
  case order =>
    intro other otherTime now hnow
    obtain rfl := (denotes_clock other otherTime).unique hnow
    rw [hclock.past_eq_none, hclock.future_eq_none, ofLocal_lt_ofLocal, ofLocal_lt_ofLocal]
    exact ⟨Iff.rfl, Iff.rfl⟩

/-- The prolonged end of a leap day half an hour behind UTC is already in March there. -/
theorem written_dates_denote_leap :
    let date : Date := ⟨2024, 2, 29, by decide, by decide, by decide⟩
    let march : Date := ⟨2024, 3, 1, by decide, by decide, by decide⟩
    date.next? = some march ∧ Denotes "2024-03-01" ⟨1709251200, 0⟩ ∧
    Denotes "2024-02-29T23:59:60.1234567899-00:30" ⟨1709252999, 1123456789⟩ ∧
    Rule.past.failure? "2024-02-29T23:59:60" ⟨1709251200, 0⟩ = none := by
  intro date march
  let time : TimeOfDay := ⟨23, 59, 60, by decide, by decide, by decide⟩
  let fraction : Fraction := ⟨"1234567899".toList, List.all_eq_true.mp (by decide)⟩
  have hmarch : march.text = "2024-03-01" := by decide +kernel
  have hclock : date.text ++ "T" ++ time.text = "2024-02-29T23:59:60" := by decide +kernel
  have hstamp : "2024-02-29T23:59:60" ++ fraction.text ++ (Zone.behind 0 30).text =
      "2024-02-29T23:59:60.1234567899-00:30" := by decide +kernel
  have hnumber : date.dayNumber = 19782 := by decide
  have hnanos : fraction.nanos = 123456789 := by decide
  have hminutes : (Zone.behind 0 30).minutes = -30 := by decide
  have hseconds : (86400 * 19782 + 3600 * time.hour + 60 * time.minute +
      ↑(min time.second 59) - 60 * -30 : Int) = 1709252999 := by decide
  have hexcess : (if time.second = 60 then 1000000000 else 0) + 123456789 = 1123456789 := by decide
  have hnow : ofLocal march .midnight 0 0 = ⟨1709251200, 0⟩ := by decide
  have hnext : date.next? = some march := by decide
  obtain ⟨-, -, hstamps, -, hsuccessor, -, horder⟩ := written_dates_denote date time
  rw [hnumber] at hstamps hsuccessor
  have hday := hsuccessor march hnext
  have hlocal := hstamps (by decide) fraction (.behind 0 30)
  have hpast := (horder march .midnight _ (denotes_clock march .midnight)).1
  rw [hmarch] at hday
  rw [hclock, hstamp, hminutes, hseconds, hnanos, hexcess] at hlocal
  rw [hclock, hnow] at hpast
  exact ⟨hnext, hday, hlocal, hpast.mpr (.inl (by decide))⟩

end Moment

end IdentityForms
