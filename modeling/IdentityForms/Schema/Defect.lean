/-! What can be wrong with a schema, and where. -/
namespace IdentityForms.Schema

/-- A place in a schema: the whole, a provider, a category, or an entry of a category. -/
inductive Place where
  | whole
  | provider (name : String)
  | category (owner : Option String) (name : String)
  | entry (owner category : String) (index : Nat)
  deriving DecidableEq

def Place.text : Place → String
  | whole => "$"
  | provider name => name
  | category none name => name
  | category (some owner) name => owner ++ "/" ++ name
  | entry owner group index =>
    owner ++ "/" ++ group ++ "[" ++ Nat.repr index ++ "]"

inductive Defect where
  | notProviders
  | notCategories
  | notFields
  | noFields
  | notField
  | labelNotText
  | noLabel
  | noOrder
  | requiredNotBoolean
  | validationNotText
  | repeatedLabel (label : String)
  | unordered (label : String)
  deriving DecidableEq

def Defect.text : Defect → String
  | notProviders => "expected an object of providers"
  | notCategories => "expected an object of categories"
  | notFields => "expected an array of fields"
  | noFields => "category has no fields"
  | notField => "expected a field object"
  | labelNotText => "label must be a string"
  | noLabel => "missing label"
  | noOrder => "order is missing or not an integer"
  | requiredNotBoolean => "required must be a boolean"
  | validationNotText => "validation must be a string"
  | repeatedLabel label => "duplicate label '" ++ label ++ "'"
  | unordered label => "field '" ++ label ++ "' has no numeric order"

end IdentityForms.Schema
