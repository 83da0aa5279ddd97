import IdentityForms.Calendar.Moment
import IdentityForms.Text.Blank

/-! The texts that denote moments, in three forms: a date and time with its offset from UTC,
a date and time taken as UTC, and a date, which stands for its midnight. The first form is
rigid; the other two let white space stand before a number and numbers be short. -/
namespace IdentityForms

namespace Moment

def literal? (c : Char) : List Char → Option (List Char)
  | [] => none
  | d :: text => if d = c then some text else none

def fixedNumber? (width : Nat) (text : List Char) : Option (Nat × List Char) :=
  let digits := text.take width
  if digits.length = width ∧ digits.all Char.isDigit then
    some (Nat.ofDigitChars 10 digits 0, text.drop width)
  else none

def number? (text : List Char) : Option (Nat × List Char) :=
  let digits := text.takeWhile Char.isDigit
  if digits = [] then none
  else some (Nat.ofDigitChars 10 digits 0, text.dropWhile Char.isDigit)

/-- Takes as many digits off the front as there are, but at least one and at most `width`. -/
def shortNumber? (width : Nat) (text : List Char) : Option (Nat × List Char) :=
  let digits := (text.take width).takeWhile Char.isDigit
  if digits = [] then none
  else some (Nat.ofDigitChars 10 digits 0, text.drop digits.length)

/-- The offset of `+HH:MM` or `-HH:MM` in minutes; `Z` is none. The minus sign U+2212
also serves. -/
def offset? : List Char → Option (Int × List Char)
  | [] => none
  | sign :: text =>
    if sign = 'Z' ∨ sign = 'z' then some (0, text)
    else do
      let (hours, text) ← fixedNumber? 2 text
      let text ← literal? ':' text
      let (minutes, text) ← fixedNumber? 2 text
      if ¬ (hours < 24 ∧ minutes < 60) then none
      else if sign = '+' then some (60 * hours + minutes, text)
      else if sign = '-' ∨ sign = '−' then some (-(60 * hours + minutes), text)
      else none

/-- The nanoseconds of an optional fraction of a second. Digits after the ninth are dropped. -/
def fraction? : List Char → Option (Nat × List Char)
  | '.' :: text =>
    let digits := text.takeWhile Char.isDigit
    if digits = [] then none
    else
      let kept := digits.take 9
      some (Nat.ofDigitChars 10 kept 0 * Nat.pow 10 (9 - kept.length), text.dropWhile Char.isDigit)
  | text => some (0, text)

/-- The form `YYYY-MM-DDTHH:MM:SS` with an optional fraction and an offset. -/
def ofStamp? (text : List Char) : Option Moment := do
  let (year, text) ← fixedNumber? 4 text
  let text ← literal? '-' text
  let (month, text) ← fixedNumber? 2 text
  let text ← literal? '-' text
  let (day, text) ← fixedNumber? 2 text
  let text ← literal? 'T' text <|> literal? 't' text <|> literal? ' ' text
  let (hour, text) ← fixedNumber? 2 text
  let text ← literal? ':' text
  let (minute, text) ← fixedNumber? 2 text
  let text ← literal? ':' text
  let (second, text) ← fixedNumber? 2 text
  let (nanos, text) ← fraction? text
  let (offset, text) ← offset? text
  let date ← Date.ofParts? year month day
  let time ← TimeOfDay.ofParts? hour minute second
  if text = [] then some (ofLocal date time nanos offset) else none

/-- A year: with a sign it may have any number of digits, without one at most four. -/
def looseYear? (text : List Char) : Option (Int × List Char) :=
  match text.dropWhile isBlank with
  | '-' :: text => (number? text).map fun (year, text) => (-year, text)
  | '+' :: text => (number? text).map fun (year, text) => (year, text)
  | text => (shortNumber? 4 text).map fun (year, text) => (year, text)

/-- A number of one or two digits, white space before it allowed. -/
def looseNumber? (text : List Char) : Option (Nat × List Char) :=
  shortNumber? 2 (text.dropWhile isBlank)

def looseDate? (text : List Char) : Option (Date × List Char) := do
  let (year, text) ← looseYear? text
  let text ← literal? '-' text
  let (month, text) ← looseNumber? text
  let text ← literal? '-' text
  let (day, text) ← looseNumber? text
  let date ← Date.ofParts? year month day
  some (date, text)

def looseTime? (text : List Char) : Option (TimeOfDay × List Char) := do
  let (hour, text) ← looseNumber? text
  let text ← literal? ':' text
  let (minute, text) ← looseNumber? text
  let text ← literal? ':' text
  let (second, text) ← looseNumber? text
  let time ← TimeOfDay.ofParts? hour minute second
  some (time, text)

/-- A date, the letter `T` and a time, taken as UTC. -/
def ofDateAndTime? (text : List Char) : Option Moment := do
  let (date, text) ← looseDate? text
  let text ← literal? 'T' text
  let (time, text) ← looseTime? text
  if text = [] then some (ofLocal date time 0 0) else none

def ofDate? (text : List Char) : Option Moment := do
  let (date, text) ← looseDate? text
  if text = [] then some (ofLocal date .midnight 0 0) else none

def ofText? (text : String) : Option Moment :=
  ofStamp? text.toList <|> ofDateAndTime? text.toList <|> ofDate? text.toList

end Moment

end IdentityForms
