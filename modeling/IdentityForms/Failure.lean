/-! The ways in which a value can fail its field's rules, and sets of them. -/
namespace IdentityForms

inductive Failure where
  | missing
  | tooLong
  | notDigits
  | badFormat
  | notPast
  | notFuture
  | unknownProvince
  deriving DecidableEq

namespace Failure

/-- Every failure, in the order in which failures are listed. -/
def all : List Failure :=
  [missing, tooLong, notDigits, badFormat, notPast, notFuture, unknownProvince]

@[simp] theorem mem_all (failure : Failure) : failure ∈ all := by
  cases failure <;> decide

/-- The stable identifier under which a presentation layer looks a failure up. -/
def identifier : Failure → String
  | missing => "required"
  | tooLong => "maxlength"
  | notDigits => "digits"
  | badFormat => "invalid_format"
  | notPast => "past_date"
  | notFuture => "future_date"
  | unknownProvince => "invalid_province"

/-- The sentence shown to the person who fills in the form. -/
def sentence : Failure → String
  | missing => "This field is required."
  | tooLong => "This value is too long."
  | notDigits => "Only digits are allowed."
  | badFormat => "This value has an invalid format."
  | notPast => "The date must be in the past."
  | notFuture => "The date must be in the future."
  | unknownProvince => "Enter a valid province code."

instance : ToString Failure := ⟨identifier⟩

end Failure

/-- A set of failures, held as the sublist of `Failure.all` that it selects, so that
sets with the same members are the same value. -/
structure Failures where
  toList : List Failure
  canonical : Failure.all.filter (· ∈ toList) = toList
  deriving DecidableEq

namespace Failures

instance : Membership Failure Failures := ⟨fun failures failure => failure ∈ failures.toList⟩

instance (failure : Failure) (failures : Failures) : Decidable (failure ∈ failures) :=
  inferInstanceAs (Decidable (failure ∈ failures.toList))

def ofList (failures : List Failure) : Failures where
  toList := Failure.all.filter (· ∈ failures)
  canonical := by simp

@[simp] theorem mem_ofList {failure : Failure} {failures : List Failure} :
    failure ∈ ofList failures ↔ failure ∈ failures := by
  change failure ∈ Failure.all.filter (· ∈ failures) ↔ _
  simp

theorem ext {left right : Failures} (h : ∀ failure, failure ∈ left ↔ failure ∈ right) :
    left = right := by
  obtain ⟨left, hleft⟩ := left
  obtain ⟨right, hright⟩ := right
  have h : ∀ failure, failure ∈ left ↔ failure ∈ right := h
  have : left = right := by
    rw [← hleft, ← hright]
    simp [h]
  subst this
  rfl

instance : EmptyCollection Failures := ⟨ofList []⟩

@[simp] theorem ofList_toList (failures : Failures) : ofList failures.toList = failures :=
  ext fun _ => mem_ofList

def isEmpty (failures : Failures) : Bool := failures.toList.isEmpty

end Failures

end IdentityForms
