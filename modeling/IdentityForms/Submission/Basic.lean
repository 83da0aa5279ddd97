import IdentityForms.Form.Basic
import IdentityForms.Json.Basic

/-! What a submission consists of: the phases it runs through, the data that an accepted form
yields, and what the surroundings are told. -/
namespace IdentityForms.Submission

inductive Phase where
  | idle
  | validating
  | rejected
  | accepted
  | transitioning
  | submitted
  deriving DecidableEq

namespace Phase

/-- In these phases no submission starts. -/
def isEngaged : Phase → Bool
  | validating | transitioning => true
  | _ => false

def name : Phase → String
  | idle => "Idle"
  | validating => "Validating"
  | rejected => "RejectedInvalid"
  | accepted => "Accepted"
  | transitioning => "Transitioning"
  | submitted => "Submitted"

end Phase

/-- The values of a form at the moment of its acceptance. -/
structure Receipt where
  selectorKey : String
  provider : String
  groups : List (String × List (String × String))
  acceptedAt : Moment
  deriving DecidableEq

namespace Receipt

def ofForm (form : Form) (selectorKey : String) (now : Moment) : Receipt where
  selectorKey := selectorKey
  provider := form.selector.entry.value
  groups := form.groups.map fun group =>
    (group.name, group.fields.map fun field => (field.label, field.entry.value))
  acceptedAt := now

/-- The value of the first field of a label in the first group of a name. -/
def value? (receipt : Receipt) (category label : String) : Option String :=
  (receipt.groups.lookup category).bind (·.lookup label)

def jsonOfGroup (values : List (String × String)) : Json :=
  .object (Entries.ofList (values.map fun (label, value) => (label, .string value)))

/-- The provider under the selector's key, and an object of values for each group. Of equal
keys the last value stands at the first place. -/
def toJson (receipt : Receipt) : Json :=
  .object (Entries.ofList ((receipt.selectorKey, .string receipt.provider) ::
    receipt.groups.map fun (name, values) => (name, jsonOfGroup values)))

end Receipt

inductive Tone where
  | success
  | error
  deriving DecidableEq

/-- What the surroundings are told, with the phase that they could observe then. -/
inductive Event where
  | notice (tone : Tone) (message : String) (millis : UInt64) (phase : Phase)
  | validationFailed (phase : Phase)
  | accepted (phase : Phase)
  deriving DecidableEq

inductive Outcome where
  | ignored
  | rejected (paths : List Form.Path)
  | accepted (receipt : Receipt)
  deriving DecidableEq

/-- How a submission ends: its outcome, what the surroundings were told, and what is left. -/
structure Verdict (σ : Type) where
  outcome : Outcome
  events : List Event
  after : σ
  deriving DecidableEq

end IdentityForms.Submission
