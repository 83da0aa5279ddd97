import IdentityForms.Json.Binary64
import IdentityForms.Entries

/-! JSON values. The members of an object keep the order in which their keys first came. -/
namespace IdentityForms

namespace Json

/-- A number is an integer of 64 bits, signed or unsigned, or a double. -/
inductive Number where
  | integer (value : Int)
  | binary (value : Binary64)
  deriving DecidableEq

end Json

inductive Json where
  | null
  | bool (value : Bool)
  | number (value : Json.Number)
  | string (value : String)
  | array (items : List Json)
  | object (members : List (String × Json))

end IdentityForms
