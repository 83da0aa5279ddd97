import IdentityForms.Proofs.Form.Pristine
import IdentityForms.Proofs.Schema.Distinct

/-! The fields of a form under the names that a schema gives them. Where no name is given twice,
every field is the one that its names mean. -/
namespace IdentityForms

theorem find?_of_nodup {α : Type} {key : α → String} {as : List α} (h : (as.map key).Nodup)
    {a : α} (ha : a ∈ as) : as.find? (key · = key a) = some a := by
  induction as with
  | nil => exact absurd ha List.not_mem_nil
  | cons first as ih =>
    obtain ⟨hfirst, h⟩ := List.nodup_cons.mp h
    rcases List.mem_cons.mp ha with rfl | ha
    · simp
    · have hne : key first ≠ key a := fun heq => hfirst (heq ▸ List.mem_map_of_mem ha)
      rw [List.find?_cons_of_neg (by simpa using hne), ih h ha]

theorem exists_of_map_eq {α β γ : Type} {f : α → γ} {g : β → γ} {as : List α} {bs : List β}
    (h : as.map f = bs.map g) {a : α} (ha : a ∈ as) : ∃ b ∈ bs, f a = g b := by
  have hmem : f a ∈ bs.map g := h ▸ List.mem_map_of_mem ha
  obtain ⟨b, hb, heq⟩ := List.mem_map.mp hmem
  exact ⟨b, hb, heq.symm⟩

theorem Schema.Category.arranged_perm (category : Category) :
    category.arranged.Perm category.fields := by
  unfold arranged
  split
  · exact List.mergeSort_perm _ _
  · exact .refl _

namespace Form

/-- No two groups have one name, and no two fields of a group have one label. -/
structure Distinct (form : Form) : Prop where
  names : (form.groups.map (·.name)).Nodup
  labels : ∀ group ∈ form.groups, group.labels.Nodup

theorem Distinct.field?_of_mem {form : Form} (h : form.Distinct) {group : Group}
    (hgroup : group ∈ form.groups) {field : Field} (hfield : field ∈ group.fields) :
    form.field? group.name field.label = some field := by
  have hfound : form.group? group.name = some group := find?_of_nodup h.names hgroup
  unfold field?
  rw [hfound]
  exact find?_of_nodup (h.labels group hgroup) hfield

def value? (form : Form) (category label : String) : Option String :=
  (form.field? category label).map (·.entry.value)

theorem Distinct.value?_of_mem {form : Form} (h : form.Distinct) {group : Group}
    (hgroup : group ∈ form.groups) {field : Field} (hfield : field ∈ group.fields) :
    form.value? group.name field.label = some field.entry.value := by
  rw [value?, h.field?_of_mem hgroup hfield, Option.map_some]

/-- What the form has under the names that a group of any form has. A group that is cleared has lost
its values, but its names still lead to them. -/
def valuesUnder (form : Form) (group : Group) : String × List (String × Option String) :=
  (group.name, group.fields.map fun field => (field.label, form.value? group.name field.label))

/-- Whether the groups are those of a provider, apart from what has been entered in them. -/
def Follows (form : Form) (provider : Schema.Provider) : Prop :=
  form.groups.map Group.cleared = provider.categories.map (·.toForm)

variable {form : Form} {provider : Schema.Provider} {group : Group} {field : Field}
  {category : Schema.Category} {spec : Schema.Field}

theorem Group.name_of_cleared (h : group.cleared = category.toForm) :
    group.name = category.name := congrArg (·.name) h

theorem Group.fields_of_cleared (h : group.cleared = category.toForm) :
    group.fields.map Field.cleared = category.arranged.map (·.toForm) := congrArg (·.fields) h

theorem Group.labels_of_cleared (h : group.cleared = category.toForm) :
    group.labels = category.arranged.map (·.label) := by
  have hlabels := congrArg (List.map (·.label)) (fields_of_cleared h)
  rw [List.map_map, List.map_map] at hlabels
  exact hlabels

theorem Field.label_of_cleared (h : field.cleared = spec.toForm) : field.label = spec.label :=
  congrArg (·.label) h

theorem Field.rules_of_cleared (h : field.cleared = spec.toForm) : field.rules = spec.rules :=
  congrArg (·.rules) h

namespace Follows

theorem distinct (h : form.Follows provider) (hprovider : provider.Distinct) : form.Distinct := by
  constructor
  · have hnames := congrArg (List.map (·.name)) h
    rw [List.map_map, List.map_map] at hnames
    exact hnames ▸ hprovider.names
  · intro group hgroup
    obtain ⟨category, hcategory, heq⟩ := exists_of_map_eq h hgroup
    rw [Group.labels_of_cleared heq, (category.arranged_perm.map _).nodup_iff]
    exact hprovider.labels category hcategory

/-- What holds of every field and its value holds of every field that the provider asks for and
of the value under its names. -/
theorem forall_fields (h : form.Follows provider) (hprovider : provider.Distinct)
    (P : List Rule → String → Prop) :
    (∀ group ∈ form.groups, ∀ field ∈ group.fields, P field.rules field.entry.value) ↔
      ∀ category ∈ provider.categories, ∀ spec ∈ category.fields,
        ∃ value, form.value? category.name spec.label = some value ∧ P spec.rules value := by
  have hdistinct : form.Distinct := h.distinct hprovider
  constructor
  · intro hfields category hcategory spec hspec
    obtain ⟨group, hgroup, heq⟩ := exists_of_map_eq h.symm hcategory
    have harranged : spec ∈ category.arranged := category.arranged_perm.mem_iff.mpr hspec
    obtain ⟨field, hfield, hfieldEq⟩ :=
      exists_of_map_eq (Group.fields_of_cleared heq.symm).symm harranged
    refine ⟨field.entry.value, ?_, ?_⟩
    · rw [← Group.name_of_cleared heq.symm, ← Field.label_of_cleared hfieldEq.symm]
      exact hdistinct.value?_of_mem hgroup hfield
    · rw [← Field.rules_of_cleared hfieldEq.symm]
      exact hfields group hgroup field hfield
  · intro hspecs group hgroup field hfield
    obtain ⟨category, hcategory, heq⟩ := exists_of_map_eq h hgroup
    obtain ⟨spec, harranged, hfieldEq⟩ := exists_of_map_eq (Group.fields_of_cleared heq) hfield
    have hspec : spec ∈ category.fields := category.arranged_perm.mem_iff.mp harranged
    obtain ⟨value, hvalue, hP⟩ := hspecs category hcategory spec hspec
    rw [← Group.name_of_cleared heq, ← Field.label_of_cleared hfieldEq,
      hdistinct.value?_of_mem hgroup hfield, Option.some.injEq] at hvalue
    rw [Field.rules_of_cleared hfieldEq, hvalue]
    exact hP

/-- The names and values of the groups in turn are those of the provider's categories. -/
theorem map_groups (h : form.Follows provider) (hprovider : provider.Distinct) :
    (form.groups.map fun group =>
      (group.name, group.fields.map fun field => (field.label, some field.entry.value))) =
    provider.categories.map fun category => (category.name,
      category.arranged.map fun spec => (spec.label, form.value? category.name spec.label)) := by
  have hdistinct : form.Distinct := h.distinct hprovider
  have hvalues : ∀ group ∈ form.groups, (group.name, group.fields.map fun field =>
      (field.label, some field.entry.value)) = form.valuesUnder group.cleared := by
    intro group hgroup
    refine Prod.ext rfl ?_
    simp only [valuesUnder, Group.cleared, Group.mapFields, List.map_map]
    apply List.map_congr_left
    intro field hfield
    refine Prod.ext rfl ?_
    exact (hdistinct.value?_of_mem hgroup hfield).symm
  calc _ = form.groups.map fun group => form.valuesUnder group.cleared :=
        List.map_congr_left hvalues
    _ = (form.groups.map Group.cleared).map form.valuesUnder := by
      rw [List.map_map]
      rfl
    _ = (provider.categories.map (·.toForm)).map form.valuesUnder :=
      congrArg (List.map form.valuesUnder) h
    _ = _ := by
      simp [valuesUnder, Schema.Category.toForm, Schema.Field.toForm, Function.comp_def]

end Follows

end Form

end IdentityForms
