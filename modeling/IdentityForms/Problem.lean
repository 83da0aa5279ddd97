import IdentityForms.Json.Reader
import IdentityForms.Schema.Defect

/-! Why an operation on a schema or a form fails. -/
namespace IdentityForms

inductive Problem where
  | unknownProvider (name : String)
  | unknownCategory (name : String)
  | unknownField (category label : String)
  | defective (place : Schema.Place) (defect : Schema.Defect)
  | alreadyLoaded
  | notLoaded
  | unreadable (fault : Json.Fault)
  deriving DecidableEq

def Problem.text : Problem → String
  | unknownProvider name => "provider not found: " ++ name
  | unknownCategory name => "category not found: " ++ name
  | unknownField category label => "field not found: " ++ category ++ "/" ++ label
  | defective place defect => "invalid schema at " ++ place.text ++ ": " ++ defect.text
  | alreadyLoaded => "schema already loaded"
  | notLoaded => "schema not loaded"
  | unreadable fault => "failed to parse JSON: " ++ fault.text

end IdentityForms
