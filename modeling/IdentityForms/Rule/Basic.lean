import IdentityForms.Failure
import IdentityForms.Calendar.Reading

/-! The rules a field can carry and what each says of a value. An empty value concerns the
rule `required` alone. -/
namespace IdentityForms

inductive Rule where
  | required
  | atMost (limit : UInt64)
  | digits
  | dashedDigits
  | past
  | future
  | province
  deriving DecidableEq

/-- The codes of the ten provinces; the territories are not among them. -/
def provinceCodes : List String :=
  ["AB", "BC", "MB", "NB", "NL", "NS", "ON", "PE", "QC", "SK"]

def isDigits (text : List Char) : Bool := !text.isEmpty && text.all Char.isDigit

/-- Runs of ASCII digits joined by single dashes. -/
def isDashedDigits : List Char → Bool
  | [] => false
  | [c] => c.isDigit
  | c :: d :: text =>
    c.isDigit && if d = '-' then isDashedDigits text else isDashedDigits (d :: text)

namespace Rule

/-- What a rule finds wrong with a value that is not empty. -/
def failureOfNonempty? (rule : Rule) (value : String) (now : Moment) : Option Failure :=
  match rule with
  | required => none
  | atMost limit => if limit.toNat < value.length then some .tooLong else none
  | digits => if isDigits value.toList then none else some .notDigits
  | dashedDigits => if isDashedDigits value.toList then none else some .badFormat
  | past =>
    match Moment.ofText? value with
    | some date => if date < now then none else some .notPast
    | none => some .badFormat
  | future =>
    match Moment.ofText? value with
    | some date => if now < date then none else some .notFuture
    | none => some .badFormat
  | province => if value ∈ provinceCodes then none else some .unknownProvince

def failure? (rule : Rule) (value : String) (now : Moment) : Option Failure :=
  if value = "" then
    if rule = required then some .missing else none
  else rule.failureOfNonempty? value now

/-- Everything that a list of rules finds wrong with a value. -/
def failures (rules : List Rule) (value : String) (now : Moment) : Failures :=
  .ofList (rules.filterMap (·.failure? value now))

theorem mem_failures {rules : List Rule} {value : String} {now : Moment} {failure : Failure} :
    failure ∈ failures rules value now ↔
      ∃ rule ∈ rules, rule.failure? value now = some failure := by
  simp [failures]

end Rule

end IdentityForms
