import IdentityForms.Form.Field
import IdentityForms.Form.Path
import IdentityForms.Problem

/-! Forms: the selector of the provider, and below it the provider's fields in groups. A field
is addressed by names, which mean the first group and the first field that have them. -/
namespace IdentityForms

/-- Changes the first item of a list that meets a condition. If there is none, or if the item cannot
be changed, there is a problem. -/
def changeFirst {α : Type} (p : α → Bool) (missing : Problem) (change : α → Except Problem α) :
    List α → Except Problem (List α)
  | [] => .error missing
  | a :: as =>
    if p a then (change a).map (· :: as) else (changeFirst p missing change as).map (a :: ·)

namespace Form

structure Group where
  name : String
  fields : List Field
  deriving DecidableEq

namespace Group

def field? (group : Group) (label : String) : Option Field :=
  group.fields.find? (·.label = label)

def labels (group : Group) : List String := group.fields.map (·.label)

def mapFields (f : Field → Field) (group : Group) : Group :=
  { group with fields := group.fields.map f }

end Group

end Form

structure Form where
  provider? : Option String
  selector : Form.Field
  groups : List Form.Group
  deriving DecidableEq

namespace Form

def selectorLabel : String := "selectedProvider"

def selectorPath : Path := ⟨none, selectorLabel⟩

/-- A form with no fields but the selector, which is always required. -/
def forProvider (name : String) : Form where
  provider? := if name = "" then none else some name
  selector := ⟨selectorLabel, none, [.required], { value := name }⟩
  groups := []

def blank : Form := forProvider ""

def group? (form : Form) (name : String) : Option Group :=
  form.groups.find? (·.name = name)

def field? (form : Form) (category label : String) : Option Field :=
  (form.group? category).bind (·.field? label)

/-- Changes the field of the given names. -/
def modifyField (form : Form) (category label : String) (f : Field → Field) :
    Except Problem Form := do
  let groups ← changeFirst (·.name = category) (.unknownCategory category) (fun group => do
    let fields ← changeFirst (·.label = label) (.unknownField category label)
      (fun field => .ok (f field)) group.fields
    .ok { group with fields }) form.groups
  .ok { form with groups }

def fill (form : Form) (category label value : String) : Except Problem Form :=
  form.modifyField category label (·.fill value)

def touch (form : Form) (category label : String) : Except Problem Form :=
  form.modifyField category label (·.touch)

def validateField (form : Form) (category label : String) (now : Moment) : Except Problem Form :=
  form.modifyField category label (·.validate now)

/-- Every field in display order, the selector first. -/
def fields (form : Form) : List Field :=
  form.selector :: form.groups.flatMap (·.fields)

/-- Every field with its path, in display order. -/
def placed (form : Form) : List (Path × Field) :=
  (selectorPath, form.selector) ::
    form.groups.flatMap fun group =>
      group.fields.map fun field => (⟨some group.name, field.label⟩, field)

def mapFields (f : Field → Field) (form : Form) : Form :=
  { form with selector := f form.selector, groups := form.groups.map (·.mapFields f) }

def touchAll (form : Form) : Form := form.mapFields (·.touch)

def validate (form : Form) (now : Moment) : Form := form.mapFields (·.validate now)

def isValid (form : Form) : Bool := form.fields.all (·.entry.isValid)

def invalidCount (form : Form) : Nat := form.fields.countP (!·.entry.isValid)

def invalidPaths (form : Form) : List Path :=
  (form.placed.filter (!·.2.entry.isValid)).map Prod.fst

/-- The failures in view, each with the path of its field. -/
def shown (form : Form) : List (Path × Failures) :=
  form.placed.filterMap fun (path, field) => field.entry.shown?.map (path, ·)

@[simp] theorem map_snd_placed (form : Form) : form.placed.map Prod.snd = form.fields := by
  simp [placed, fields, List.map_flatMap, Function.comp_def]

@[simp] theorem fields_mapFields (f : Field → Field) (form : Form) :
    (form.mapFields f).fields = form.fields.map f := by
  simp [fields, mapFields, Group.mapFields, List.map_flatMap, List.flatMap_map]

end Form

end IdentityForms
