import IdentityForms.Calendar.Reading
import Mathlib.Data.List.TakeWhile

/-! How dates and times are read off the front of a text. The rigid form and the other two differ
in how they read a number; what the rigid one reads, the others read the same. -/
namespace IdentityForms.Moment

/-- What stands at the front of a text, and what is left of the text after it. -/
abbrev Scanner (α : Type) := List Char → Option (α × List Char)

def dateBy (year : Scanner Int) (number : Scanner Nat) : Scanner Date := fun text => do
  let (year, text) ← year text
  let text ← literal? '-' text
  let (month, text) ← number text
  let text ← literal? '-' text
  let (day, text) ← number text
  let date ← Date.ofParts? year month day
  some (date, text)

def timeBy (number : Scanner Nat) : Scanner TimeOfDay := fun text => do
  let (hour, text) ← number text
  let text ← literal? ':' text
  let (minute, text) ← number text
  let text ← literal? ':' text
  let (second, text) ← number text
  let time ← TimeOfDay.ofParts? hour minute second
  some (time, text)

theorem looseDate?_eq : looseDate? = dateBy looseYear? looseNumber? := rfl

theorem looseTime?_eq : looseTime? = timeBy looseNumber? := rfl

def rigidYear? : Scanner Int := fun text =>
  (fixedNumber? 4 text).map fun (year, text) => (year, text)

/-- The date of a stamp. -/
def rigidDate? : Scanner Date := dateBy rigidYear? (fixedNumber? 2)

/-- The time of a stamp. -/
def rigidTime? : Scanner TimeOfDay := timeBy (fixedNumber? 2)

/-- What may stand between the date and the time of a stamp. -/
def marks : List Char := ['T', 't', ' ']

variable {α : Type} {width n : Nat} {text rest : List Char} {moment : Moment}

theorem literal?_eq_some {c : Char} : literal? c text = some rest ↔ text = c :: rest := by
  cases text with
  | nil => simp [literal?]
  | cons d text => by_cases h : d = c <;> simp [literal?, h]

theorem literal?_self (c : Char) (text : List Char) : literal? c (c :: text) = some text :=
  if_pos rfl

theorem mark_eq_some : (literal? 'T' text <|> literal? 't' text <|> literal? ' ' text) = some rest ↔
    ∃ mark ∈ marks, text = mark :: rest := by
  cases text with
  | nil => simp [literal?]
  | cons c text =>
    simp only [literal?, marks, List.cons.injEq]
    by_cases hT : c = 'T'
    · simp [hT]
    · by_cases ht : c = 't'
      · simp [ht]
      · by_cases hspace : c = ' ' <;> simp [hT, ht, hspace]

theorem rigidYear?_eq_some {year : Int} : rigidYear? text = some (year, rest) ↔
    ∃ n : Nat, fixedNumber? 4 text = some (n, rest) ∧ year = n := by
  simp only [rigidYear?, Option.map_eq_some_iff, Prod.exists, Prod.mk.injEq]
  constructor
  · rintro ⟨n, _, hn, rfl, rfl⟩
    exact ⟨n, hn, rfl⟩
  · rintro ⟨n, hn, rfl⟩
    exact ⟨n, rest, hn, rfl, rfl⟩

theorem dateBy_eq_some {year : Scanner Int} {number : Scanner Nat} {date : Date} :
    dateBy year number text = some (date, rest) ↔ ∃ afterYear afterMonth,
      year text = some (date.year, '-' :: afterYear) ∧
      number afterYear = some (date.month, '-' :: afterMonth) ∧
      number afterMonth = some (date.day, rest) := by
  simp only [dateBy, Option.bind_eq_bind, Option.bind_eq_some_iff, Prod.exists, literal?_eq_some,
    Date.ofParts?_eq_some, Option.some.injEq, Prod.mk.injEq]
  constructor
  · rintro ⟨_, _, hyear, afterYear, rfl, _, _, hmonth, afterMonth, rfl, _, _, hday, _,
      ⟨rfl, rfl, rfl⟩, rfl, rfl⟩
    exact ⟨afterYear, afterMonth, hyear, hmonth, hday⟩
  · rintro ⟨afterYear, afterMonth, hyear, hmonth, hday⟩
    exact ⟨_, _, hyear, _, rfl, _, _, hmonth, _, rfl, _, _, hday, date, ⟨rfl, rfl, rfl⟩, rfl, rfl⟩

theorem timeBy_eq_some {number : Scanner Nat} {time : TimeOfDay} :
    timeBy number text = some (time, rest) ↔ ∃ afterHour afterMinute,
      number text = some (time.hour, ':' :: afterHour) ∧
      number afterHour = some (time.minute, ':' :: afterMinute) ∧
      number afterMinute = some (time.second, rest) := by
  simp only [timeBy, Option.bind_eq_bind, Option.bind_eq_some_iff, Prod.exists, literal?_eq_some,
    TimeOfDay.ofParts?_eq_some, Option.some.injEq, Prod.mk.injEq]
  constructor
  · rintro ⟨_, _, hhour, afterHour, rfl, _, _, hminute, afterMinute, rfl, _, _, hsecond, _,
      ⟨rfl, rfl, rfl⟩, rfl, rfl⟩
    exact ⟨afterHour, afterMinute, hhour, hminute, hsecond⟩
  · rintro ⟨afterHour, afterMinute, hhour, hminute, hsecond⟩
    exact ⟨_, _, hhour, _, rfl, _, _, hminute, _, rfl, _, _, hsecond, time, ⟨rfl, rfl, rfl⟩,
      rfl, rfl⟩

/-- A stamp is a date, a mark, a time, a fraction and an offset. That its parts make a date and a
time is asked at the end, where it makes no difference. -/
theorem ofStamp?_eq_some : ofStamp? text = some moment ↔
    ∃ date mark clock time afterTime nanos zone offset, mark ∈ marks ∧
      rigidDate? text = some (date, mark :: clock) ∧
      rigidTime? clock = some (time, afterTime) ∧
      fraction? afterTime = some (nanos, zone) ∧ offset? zone = some (offset, []) ∧
      moment = ofLocal date time nanos offset := by
  constructor
  · intro h
    obtain ⟨⟨_, _⟩, hyear, h⟩ := Option.bind_eq_some_iff.mp h
    obtain ⟨afterYear, hdash, h⟩ := Option.bind_eq_some_iff.mp h
    obtain ⟨⟨_, _⟩, hmonth, h⟩ := Option.bind_eq_some_iff.mp h
    obtain ⟨afterMonth, hdash', h⟩ := Option.bind_eq_some_iff.mp h
    obtain ⟨⟨_, _⟩, hday, h⟩ := Option.bind_eq_some_iff.mp h
    obtain ⟨clock, hclock, h⟩ := Option.bind_eq_some_iff.mp h
    obtain ⟨⟨_, _⟩, hhour, h⟩ := Option.bind_eq_some_iff.mp h
    obtain ⟨afterHour, hcolon, h⟩ := Option.bind_eq_some_iff.mp h
    obtain ⟨⟨_, _⟩, hminute, h⟩ := Option.bind_eq_some_iff.mp h
    obtain ⟨afterMinute, hcolon', h⟩ := Option.bind_eq_some_iff.mp h
    obtain ⟨⟨_, afterTime⟩, hsecond, h⟩ := Option.bind_eq_some_iff.mp h
    obtain ⟨⟨nanos, zone⟩, hfraction, h⟩ := Option.bind_eq_some_iff.mp h
    obtain ⟨⟨offset, _⟩, hoffset, h⟩ := Option.bind_eq_some_iff.mp h
    obtain ⟨date, hdate, h⟩ := Option.bind_eq_some_iff.mp h
    obtain ⟨time, htime, h⟩ := Option.bind_eq_some_iff.mp h
    obtain ⟨rfl, hmoment⟩ := Option.ite_none_right_eq_some.mp h
    obtain rfl := literal?_eq_some.mp hdash
    obtain rfl := literal?_eq_some.mp hdash'
    obtain rfl := literal?_eq_some.mp hcolon
    obtain rfl := literal?_eq_some.mp hcolon'
    obtain ⟨mark, hmark, rfl⟩ := mark_eq_some.mp hclock
    obtain ⟨hyear', rfl, rfl⟩ := Date.ofParts?_eq_some.mp hdate
    obtain ⟨rfl, rfl, rfl⟩ := TimeOfDay.ofParts?_eq_some.mp htime
    have hrigid : rigidDate? text = some (date, mark :: clock) := dateBy_eq_some.mpr
      ⟨afterYear, afterMonth, rigidYear?_eq_some.mpr ⟨_, hyear, hyear'.symm⟩, hmonth, hday⟩
    have hrigid' : rigidTime? clock = some (time, afterTime) := timeBy_eq_some.mpr
      ⟨afterHour, afterMinute, hhour, hminute, hsecond⟩
    exact ⟨date, mark, clock, time, afterTime, nanos, zone, offset, hmark, hrigid, hrigid',
      hfraction, hoffset, (Option.some.inj hmoment).symm⟩
  · rintro ⟨date, mark, clock, time, afterTime, nanos, zone, offset, hmark, hdate, htime,
      hfraction, hoffset, rfl⟩
    obtain ⟨afterYear, afterMonth, hyear, hmonth, hday⟩ := dateBy_eq_some.mp hdate
    obtain ⟨year, hyear, heq⟩ := rigidYear?_eq_some.mp hyear
    obtain ⟨afterHour, afterMinute, hhour, hminute, hsecond⟩ := timeBy_eq_some.mp htime
    have hclock : (literal? 'T' (mark :: clock) <|> literal? 't' (mark :: clock) <|>
        literal? ' ' (mark :: clock)) = some clock := mark_eq_some.mpr ⟨mark, hmark, rfl⟩
    refine Option.bind_eq_some_iff.mpr ⟨_, hyear, ?_⟩
    refine Option.bind_eq_some_iff.mpr ⟨_, literal?_self _ _, ?_⟩
    refine Option.bind_eq_some_iff.mpr ⟨_, hmonth, ?_⟩
    refine Option.bind_eq_some_iff.mpr ⟨_, literal?_self _ _, ?_⟩
    refine Option.bind_eq_some_iff.mpr ⟨_, hday, ?_⟩
    refine Option.bind_eq_some_iff.mpr ⟨_, hclock, ?_⟩
    refine Option.bind_eq_some_iff.mpr ⟨_, hhour, ?_⟩
    refine Option.bind_eq_some_iff.mpr ⟨_, literal?_self _ _, ?_⟩
    refine Option.bind_eq_some_iff.mpr ⟨_, hminute, ?_⟩
    refine Option.bind_eq_some_iff.mpr ⟨_, literal?_self _ _, ?_⟩
    refine Option.bind_eq_some_iff.mpr ⟨_, hsecond, ?_⟩
    refine Option.bind_eq_some_iff.mpr ⟨_, hfraction, ?_⟩
    refine Option.bind_eq_some_iff.mpr ⟨_, hoffset, ?_⟩
    refine Option.bind_eq_some_iff.mpr
      ⟨date, Date.ofParts?_eq_some.mpr ⟨heq.symm, rfl, rfl⟩, ?_⟩
    exact Option.bind_eq_some_iff.mpr ⟨time, TimeOfDay.ofParts?_parts time, if_pos rfl⟩

theorem ofDateAndTime?_eq_some : ofDateAndTime? text = some moment ↔
    ∃ date clock time, looseDate? text = some (date, 'T' :: clock) ∧
      looseTime? clock = some (time, []) ∧ moment = ofLocal date time 0 0 := by
  simp only [ofDateAndTime?, Option.bind_eq_bind, Option.bind_eq_some_iff, Prod.exists,
    literal?_eq_some, Option.ite_none_right_eq_some, Option.some.injEq]
  constructor
  · rintro ⟨date, _, hdate, clock, rfl, time, _, htime, rfl, rfl⟩
    exact ⟨date, clock, time, hdate, htime, rfl⟩
  · rintro ⟨date, clock, time, hdate, htime, rfl⟩
    exact ⟨date, _, hdate, clock, rfl, time, _, htime, rfl, rfl⟩

theorem ofDate?_eq_some : ofDate? text = some moment ↔
    ∃ date, looseDate? text = some (date, []) ∧ moment = ofLocal date .midnight 0 0 := by
  simp only [ofDate?, Option.bind_eq_bind, Option.bind_eq_some_iff, Prod.exists,
    Option.ite_none_right_eq_some, Option.some.injEq]
  constructor
  · rintro ⟨date, _, hdate, rfl, rfl⟩
    exact ⟨date, hdate, rfl⟩
  · rintro ⟨date, hdate, rfl⟩
    exact ⟨date, _, hdate, rfl, rfl⟩

/-- Whatever `narrow` reads, `wide` reads the same. -/
def Agrees (narrow wide : Scanner α) : Prop :=
  ∀ text part, narrow text = some part → wide text = some part

theorem Agrees.dateBy {year year' : Scanner Int} {number number' : Scanner Nat}
    (hyear : Agrees year year') (hnumber : Agrees number number') :
    Agrees (dateBy year number) (dateBy year' number') := by
  rintro text ⟨date, rest⟩ h
  obtain ⟨afterYear, afterMonth, hy, hm, hd⟩ := dateBy_eq_some.mp h
  exact dateBy_eq_some.mpr
    ⟨afterYear, afterMonth, hyear _ _ hy, hnumber _ _ hm, hnumber _ _ hd⟩

theorem Agrees.timeBy {number number' : Scanner Nat} (hnumber : Agrees number number') :
    Agrees (timeBy number) (timeBy number') := by
  rintro text ⟨time, rest⟩ h
  obtain ⟨afterHour, afterMinute, hh, hm, hs⟩ := timeBy_eq_some.mp h
  exact timeBy_eq_some.mpr
    ⟨afterHour, afterMinute, hnumber _ _ hh, hnumber _ _ hm, hnumber _ _ hs⟩

theorem isBlank_of_isDigit {c : Char} (h : c.isDigit) : isBlank c = false := by
  have hrange : 48 ≤ c.toNat ∧ c.toNat ≤ 57 := by
    simpa [Char.isDigit, UInt32.le_iff_toNat_le] using h
  simp only [isBlank, Bool.or_eq_false_iff, Bool.and_eq_false_iff, decide_eq_false_iff_not]
  omega

theorem fixedNumber?_eq_some : fixedNumber? width text = some (n, rest) ↔
    ∃ digits, text = digits ++ rest ∧ digits.length = width ∧ (∀ c ∈ digits, c.isDigit) ∧
      n = Nat.ofDigitChars 10 digits 0 := by
  unfold fixedNumber?
  simp only [List.all_eq_true, Option.ite_none_right_eq_some, Option.some.injEq, Prod.mk.injEq]
  constructor
  · rintro ⟨⟨hlength, hdigits⟩, rfl, rfl⟩
    exact ⟨text.take width, (List.take_append_drop width text).symm, hlength, hdigits, rfl⟩
  · rintro ⟨digits, rfl, rfl, hdigits, rfl⟩
    rw [List.take_left, List.drop_left]
    exact ⟨⟨rfl, hdigits⟩, rfl, rfl⟩

theorem agrees_shortNumber? (hwidth : width ≠ 0) :
    Agrees (fixedNumber? width) (shortNumber? width) := by
  rintro text ⟨n, rest⟩ h
  obtain ⟨digits, rfl, rfl, hdigits, rfl⟩ := fixedNumber?_eq_some.mp h
  have hne : digits ≠ [] := List.ne_nil_of_length_pos (Nat.pos_of_ne_zero hwidth)
  unfold shortNumber?
  dsimp only
  rw [List.take_left, List.takeWhile_eq_self_iff.mpr hdigits, if_neg hne, List.drop_left]

theorem exists_cons_of_fixedNumber? (hwidth : width ≠ 0)
    (h : fixedNumber? width text = some (n, rest)) : ∃ c tail, text = c :: tail ∧ c.isDigit := by
  obtain ⟨digits, rfl, rfl, hdigits, -⟩ := fixedNumber?_eq_some.mp h
  cases digits with
  | nil => exact absurd rfl hwidth
  | cons c digits => exact ⟨c, digits ++ rest, rfl, hdigits c List.mem_cons_self⟩

theorem dropWhile_isBlank_of_isDigit {c : Char} (h : c.isDigit) (text : List Char) :
    (c :: text).dropWhile isBlank = c :: text :=
  List.dropWhile_cons_of_neg (by simp [isBlank_of_isDigit h])

theorem agrees_looseNumber? : Agrees (fixedNumber? 2) looseNumber? := by
  rintro text ⟨n, rest⟩ h
  obtain ⟨c, tail, rfl, hc⟩ := exists_cons_of_fixedNumber? (by decide) h
  unfold looseNumber?
  rw [dropWhile_isBlank_of_isDigit hc]
  exact agrees_shortNumber? (by decide) _ _ h

/-- A text that begins with a digit has no sign before its year. -/
theorem looseYear?_of_isDigit {c : Char} (h : c.isDigit) (text : List Char) :
    looseYear? (c :: text) =
      (shortNumber? 4 (c :: text)).map fun (year, text) => ((year : Int), text) := by
  unfold looseYear?
  rw [dropWhile_isBlank_of_isDigit h]
  split
  · next heq => exact absurd ((List.cons.inj heq).1 ▸ h) (by decide)
  · next heq => exact absurd ((List.cons.inj heq).1 ▸ h) (by decide)
  · rfl

theorem agrees_looseYear? : Agrees rigidYear? looseYear? := by
  rintro text ⟨year, rest⟩ h
  obtain ⟨n, hn, rfl⟩ := rigidYear?_eq_some.mp h
  obtain ⟨c, tail, rfl, hc⟩ := exists_cons_of_fixedNumber? (by decide) hn
  rw [looseYear?_of_isDigit hc, agrees_shortNumber? (by decide) _ _ hn]
  rfl

theorem agrees_looseDate? : Agrees rigidDate? looseDate? := by
  rw [looseDate?_eq]
  exact agrees_looseYear?.dateBy agrees_looseNumber?

theorem agrees_looseTime? : Agrees rigidTime? looseTime? := by
  rw [looseTime?_eq]
  exact agrees_looseNumber?.timeBy

end IdentityForms.Moment
