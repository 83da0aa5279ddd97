import IdentityForms.Json.Document
import IdentityForms.Problem
import IdentityForms.Schema.Basic

/-! Schemas read from documents: an object of providers, each an object of categories, each
an array of fields. Of several defects the first in the document is reported. -/
namespace IdentityForms

/-- The order that a number gives: a signed integer of 64 bits, or a double that is a whole
number below `9 * 10 ^ 15`. -/
def Json.Number.order? : Json.Number → Option Int64
  | integer n =>
    if Int64.minValue.toInt ≤ n ∧ n ≤ Int64.maxValue.toInt then some (.ofInt n) else none
  | binary x => x.toInt?.bind fun n =>
    if n.natAbs < 9 * Nat.pow 10 15 then some (.ofInt n) else none

namespace Schema

/-- What only the strict policy takes for a defect. -/
def Policy.insist (policy : Policy) (defect : Defect) : Except Defect Unit :=
  match policy with
  | strict => .error defect
  | lenient => .ok ()

namespace Field

def labelOf (members : List (String × Json)) : Except Defect String :=
  match members.lookup "label" with
  | some (.string label) => .ok label
  | some _ => .error .labelNotText
  | none => .error .noLabel

/-- The order among the members of an entry. What is no number gives none. -/
def orderOf (members : List (String × Json)) : Option Int64 :=
  match members.lookup "order" with
  | some (.number n) => n.order?
  | _ => none

/-- Whether an entry says that its field is required; null says that it is not. -/
def requiredOf (members : List (String × Json)) : Except Defect Bool :=
  match members.lookup "required" with
  | none | some .null => .ok false
  | some (.bool required) => .ok required
  | some _ => .error .requiredNotBoolean

def validationOf (members : List (String × Json)) : Except Defect (Option String) :=
  match members.lookup "validation" with
  | none | some .null => .ok none
  | some (.string validation) => .ok (some validation)
  | some _ => .error .validationNotText

def ofJson (policy : Policy) : Json → Except Defect Field
  | .object members => do
    let label ← labelOf members
    let order := orderOf members
    if order = none then policy.insist .noOrder
    let required ← requiredOf members
    let validation ← validationOf members
    .ok ⟨label, order, required, validation⟩
  | _ => .error .notField

/-- The fields of the entries of an array from the given index on. No label may be among
those already taken, nor come twice. -/
def listOfJson (policy : Policy) (place : Nat → Place) :
    (taken : List String) → (index : Nat) → List Json → Except Problem (List Field)
  | _, _, [] => .ok []
  | taken, index, entry :: entries => do
    let field ← (ofJson policy entry).mapError (.defective (place index))
    if field.label ∈ taken then
      .error (.defective (place index) (.repeatedLabel field.label))
    else do
      let fields ← listOfJson policy place (field.label :: taken) (index + 1) entries
      .ok (field :: fields)

end Field

def Category.ofJson (policy : Policy) (owner name : String) : Json → Except Problem Category
  | .array entries => do
    if entries = [] then
      (policy.insist .noFields).mapError (.defective (.category (some owner) name))
    let fields ← Field.listOfJson policy (.entry owner name) [] 0 entries
    .ok ⟨name, fields⟩
  | _ => .error (.defective (.category (some owner) name) .notFields)

def Provider.ofJson (policy : Policy) (name : String) : Json → Except Problem Provider
  | .object members => do
    let categories ← members.mapM fun (category, json) => Category.ofJson policy name category json
    .ok ⟨categories⟩
  | _ => .error (.defective (.provider name) .notCategories)

def ofJson (policy : Policy) : Json → Except Problem Schema
  | .object members => do
    let providers ← members.mapM fun (name, json) => do
      let provider ← Provider.ofJson policy name json
      .ok (name, provider)
    .ok ⟨providers⟩
  | _ => .error (.defective .whole .notProviders)

/-- Reads a schema document. A text that is no JSON is the problem before any defect. -/
def ofText (policy : Policy) (text : String) : Except Problem Schema := do
  let json ← (Json.ofText text).mapError .unreadable
  ofJson policy json

end Schema

end IdentityForms
