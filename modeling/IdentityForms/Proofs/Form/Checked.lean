import IdentityForms.Proofs.Form.Pristine

/-! Forms as a submission looks at them: every field is touched and validated afresh, so nothing
that an earlier validation has found plays a part. -/
namespace IdentityForms

theorem Failures.isEmpty_iff {failures : Failures} :
    failures.isEmpty ↔ ∀ failure, failure ∉ failures := by
  change failures.toList.isEmpty ↔ ∀ failure, failure ∉ failures.toList
  rw [List.isEmpty_iff, List.eq_nil_iff_forall_not_mem]

namespace Rule

/-- Whether no rule of a list finds anything wrong with a value. -/
def Accept (rules : List Rule) (value : String) (now : Moment) : Prop :=
  ∀ rule ∈ rules, rule.failure? value now = none

theorem isEmpty_failures {rules : List Rule} {value : String} {now : Moment} :
    (failures rules value now).isEmpty ↔ Accept rules value now := by
  rw [Failures.isEmpty_iff]
  constructor
  · intro h rule hrule
    rw [Option.eq_none_iff_forall_not_mem]
    intro failure hfailure
    exact h failure (mem_failures.mpr ⟨rule, hrule, hfailure⟩)
  · intro h failure hfailure
    obtain ⟨rule, hrule, hfailure⟩ := mem_failures.mp hfailure
    rw [h rule hrule] at hfailure
    cases hfailure

theorem accept_required {value : String} {now : Moment} :
    Accept [.required] value now ↔ value ≠ "" := by
  by_cases h : value = "" <;> simp [Accept, failure?, failureOfNonempty?, h]

end Rule

namespace Form

def checked (form : Form) (now : Moment) : Form := form.touchAll.validate now

def Field.checked (field : Field) (now : Moment) : Field := field.touch.validate now

@[simp] theorem pristine_checked (form : Form) (now : Moment) :
    (form.checked now).pristine = form.pristine := by
  rw [checked, pristine_validate, pristine_touchAll]

theorem Field.isValid_checked (field : Field) (now : Moment) :
    (field.checked now).entry.isValid ↔ Rule.Accept field.rules field.entry.value now :=
  Rule.isEmpty_failures

theorem fields_checked (form : Form) (now : Moment) :
    (form.checked now).fields = form.fields.map (·.checked now) := by
  unfold checked validate touchAll
  rw [fields_mapFields, fields_mapFields, List.map_map]
  rfl

theorem isValid_of_mem_checked {form : Form} {now : Moment} {field : Field}
    (h : field ∈ (form.checked now).fields) :
    field.entry.isValid ↔ Rule.Accept field.rules field.entry.value now := by
  rw [fields_checked] at h
  obtain ⟨unchecked, -, rfl⟩ := List.mem_map.mp h
  exact unchecked.isValid_checked now

theorem groups_checked (form : Form) (now : Moment) :
    (form.checked now).groups = form.groups.map (·.mapFields (·.checked now)) := by
  simp [checked, validate, touchAll, mapFields, Group.mapFields, Field.checked]

theorem mem_fields {form : Form} {group : Group} (hgroup : group ∈ form.groups) {field : Field}
    (hfield : field ∈ group.fields) : field ∈ form.fields :=
  List.mem_cons_of_mem form.selector (List.mem_flatMap_of_mem hgroup hfield)

theorem forall_mem_fields {form : Form} {P : Field → Prop} : (∀ field ∈ form.fields, P field) ↔
    P form.selector ∧ ∀ group ∈ form.groups, ∀ field ∈ group.fields, P field := by
  unfold fields
  rw [List.forall_mem_cons, List.forall_mem_flatMap]

theorem invalidCount_checked (form : Form) (now : Moment) : (form.checked now).invalidCount = 0 ↔
    ∀ field ∈ form.fields, Rule.Accept field.rules field.entry.value now := by
  unfold invalidCount
  rw [fields_checked, List.countP_eq_zero, List.forall_mem_map]
  apply forall₂_congr
  intro field _
  rw [Bool.not_eq_true', Bool.not_eq_false, field.isValid_checked]

end Form

end IdentityForms
