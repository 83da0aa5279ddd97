import IdentityForms.Rule.Basic

/-! Fields of a form while it is filled in. -/
namespace IdentityForms.Form

/-- What has been entered in a field, and what the latest validation found wrong with it. -/
structure Entry where
  value : String := ""
  touched : Bool := false
  failures : Failures := ∅
  deriving DecidableEq

namespace Entry

def isValid (entry : Entry) : Bool := entry.failures.isEmpty

def shown? (entry : Entry) : Option Failures :=
  if entry.touched && !entry.isValid then some entry.failures else none

end Entry

structure Field where
  label : String
  order : Option Int64
  rules : List Rule
  entry : Entry := {}
  deriving DecidableEq

namespace Field

def fill (value : String) (field : Field) : Field :=
  { field with entry := { field.entry with value } }

def touch (field : Field) : Field :=
  { field with entry := { field.entry with touched := true } }

/-- Replaces the failures by what the rules find at the given moment. -/
def validate (now : Moment) (field : Field) : Field :=
  { field with entry :=
    { field.entry with failures := Rule.failures field.rules field.entry.value now } }

end Field

end IdentityForms.Form
