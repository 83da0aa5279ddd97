import IdentityForms.Form.Layout
import IdentityForms.Proofs.Form.Changing

/-! What is left of a form when all that was entered in it is taken out. No operation on fields
changes it, and a form that has just been laid out is nothing else. -/
namespace IdentityForms

namespace Form

def Field.cleared (field : Field) : Field := { field with entry := {} }

def Group.cleared (group : Group) : Group := group.mapFields Field.cleared

/-- The form with every field cleared, except that the selector keeps its value. -/
def pristine (form : Form) : Form where
  provider? := form.provider?
  selector := { form.selector with entry := { value := form.selector.entry.value } }
  groups := form.groups.map Group.cleared

namespace Field

@[simp] theorem cleared_fill (field : Field) (value : String) :
    (field.fill value).cleared = field.cleared := rfl

@[simp] theorem cleared_touch (field : Field) : field.touch.cleared = field.cleared := rfl

@[simp] theorem cleared_validate (field : Field) (now : Moment) :
    (field.validate now).cleared = field.cleared := rfl

end Field

namespace Group

theorem cleared_mapFields {f : Field → Field} (hf : ∀ field, (f field).cleared = field.cleared)
    (group : Group) : (group.mapFields f).cleared = group.cleared := by
  simp [cleared, mapFields, Function.comp_def, hf]

theorem cleared_modifyField {f : Field → Field} (hf : ∀ field, (f field).cleared = field.cleared)
    (label : String) (group : Group) : (group.modifyField label f).cleared = group.cleared := by
  unfold cleared mapFields modifyField
  rw [map_modifyFirst hf]

end Group

variable {form changed : Form} {category label : String} {f : Field → Field}

theorem pristine_modifyField (hf : ∀ field, (f field).cleared = field.cleared)
    (h : form.modifyField category label f = .ok changed) : changed.pristine = form.pristine := by
  obtain ⟨_, rfl⟩ := modifyField_eq_ok.mp h
  unfold pristine
  rw [map_modifyFirst (Group.cleared_modifyField hf label)]

theorem pristine_mapFields (hf : ∀ field, (f field).cleared = field.cleared)
    (hvalue : ∀ field, (f field).entry.value = field.entry.value) (form : Form) :
    (form.mapFields f).pristine = form.pristine := by
  have hselector := hf form.selector
  simp only [Field.cleared, Field.mk.injEq, and_true] at hselector
  obtain ⟨hlabel, horder, hrules⟩ := hselector
  simp [pristine, mapFields, hlabel, horder, hrules, hvalue, Function.comp_def,
    Group.cleared_mapFields hf]

@[simp] theorem pristine_touchAll (form : Form) : form.touchAll.pristine = form.pristine :=
  pristine_mapFields Field.cleared_touch (fun _ => rfl) form

@[simp] theorem pristine_validate (form : Form) (now : Moment) :
    (form.validate now).pristine = form.pristine :=
  pristine_mapFields (Field.cleared_validate · now) (fun _ => rfl) form

end Form

@[simp] theorem Schema.Category.cleared_toForm (category : Category) :
    category.toForm.cleared = category.toForm := by
  simp [Form.Group.cleared, Form.Group.mapFields, toForm, Function.comp_def, Form.Field.cleared,
    Schema.Field.toForm]

@[simp] theorem Schema.Provider.pristine_layOut (provider : Provider) (name : String) :
    (provider.layOut name).form.pristine = (provider.layOut name).form := by
  simp [Form.pristine, layOut, Form.forProvider, Function.comp_def]

end IdentityForms
