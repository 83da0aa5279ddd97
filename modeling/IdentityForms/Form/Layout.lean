import IdentityForms.Form.Basic
import IdentityForms.Rule.Token
import IdentityForms.Schema.Basic

/-! Forms laid out from a provider's part of a schema. The fields of a category are sorted if
each of them has an order; where one has none they stay as declared, which is reported. -/
namespace IdentityForms

namespace Schema.Field

def rules (field : Schema.Field) : List Rule := Rule.ofField field.required field.validation

def toForm (field : Schema.Field) : Form.Field := ⟨field.label, field.order, field.rules, {}⟩

def mayPrecede (left right : Schema.Field) : Bool :=
  match left.order, right.order with
  | some left, some right => left ≤ right
  | _, _ => true

end Schema.Field

namespace Schema.Category

/-- The fields in display order. Equal orders keep the order of declaration. -/
def arranged (category : Category) : List Schema.Field :=
  if category.fields.all (·.order.isSome) then
    category.fields.mergeSort Schema.Field.mayPrecede
  else category.fields

def defect? (category : Category) : Option Defect :=
  if category.fields = [] then some .noFields
  else (category.fields.find? (·.order.isNone)).map (.unordered ·.label)

def toForm (category : Category) : Form.Group :=
  ⟨category.name, category.arranged.map (·.toForm)⟩

end Schema.Category

/-- A form and what is to be said of the schema that it follows. -/
structure Layout where
  form : Form
  problems : List Problem
  deriving DecidableEq

namespace Layout

def isSound (layout : Layout) : Bool := layout.problems.isEmpty

/-- The form if nothing is to be said, or else the first problem. -/
def toExcept (layout : Layout) : Except Problem Form :=
  match layout.problems with
  | [] => .ok layout.form
  | problem :: _ => .error problem

end Layout

/-- The form of a provider, whose selector holds the given name. -/
def Schema.Provider.layOut (provider : Provider) (name : String) : Layout :=
  let bare := Form.forProvider name
  { form := { bare with groups := provider.categories.map (·.toForm) }
    problems := provider.categories.filterMap fun category =>
      category.defect?.map (.defective (.category bare.provider? category.name)) }

end IdentityForms
