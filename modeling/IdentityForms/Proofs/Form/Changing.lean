import IdentityForms.Form.Basic

/-! A field that is changed by name. It is found by a search of its own, group first, which ends
where looking the names up ends: at the same field, or with the same problem. -/
namespace IdentityForms

section

variable {α : Type} {p : α → Bool} {missing : Problem} {change : α → Except Problem α}
  {as : List α} {a : α}

def modifyFirst (p : α → Bool) (f : α → α) : List α → List α
  | [] => []
  | a :: as => if p a then f a :: as else a :: modifyFirst p f as

theorem map_modifyFirst {β : Type} {f : α → α} {g : α → β} (hf : ∀ a, g (f a) = g a)
    (as : List α) : (modifyFirst p f as).map g = as.map g := by
  induction as with
  | nil => rfl
  | cons a as ih => by_cases h : p a <;> simp [modifyFirst, h, hf, ih]

theorem modifyFirst_congr {f g : α → α} (hfound : as.find? p = some a) (hfg : f a = g a) :
    modifyFirst p f as = modifyFirst p g as := by
  induction as with
  | nil => rfl
  | cons b as ih =>
    by_cases hb : p b
    · obtain rfl : b = a := by simpa [hb] using hfound
      simp [modifyFirst, hb, hfg]
    · simp [modifyFirst, hb, ih (by simpa [hb] using hfound)]

theorem changeFirst_of_none (h : as.find? p = none) :
    changeFirst p missing change as = .error missing := by
  induction as with
  | nil => rfl
  | cons a as ih =>
    obtain ⟨ha, has⟩ : ¬ p a ∧ as.find? p = none := by simpa using h
    rw [changeFirst, if_neg ha, ih has]
    rfl

theorem changeFirst_of_some (h : as.find? p = some a) :
    changeFirst p missing change as =
      (change a).map fun changed => modifyFirst p (fun _ => changed) as := by
  induction as with
  | nil => cases h
  | cons b as ih =>
    by_cases hb : p b
    · obtain rfl : b = a := by simpa [hb] using h
      simp only [changeFirst, modifyFirst, if_pos hb]
    · rw [changeFirst, if_neg hb, ih (by simpa [hb] using h)]
      cases change a <;> simp [Except.map, modifyFirst, hb]

end

namespace Form

def Group.modifyField (label : String) (f : Field → Field) (group : Group) : Group :=
  { group with fields := modifyFirst (·.label = label) f group.fields }

/-- The field of the given names, or which of them is unknown. -/
def field (form : Form) (category label : String) : Except Problem Field :=
  match form.group? category with
  | none => .error (.unknownCategory category)
  | some group =>
    match group.field? label with
    | none => .error (.unknownField category label)
    | some field => .ok field

theorem field?_eq_toOption (form : Form) (category label : String) :
    form.field? category label = (form.field category label).toOption := by
  unfold field? field
  cases h : form.group? category with
  | none => rfl
  | some group =>
    change group.field? label = _
    dsimp only
    cases group.field? label <;> rfl

variable {form changed : Form} {category label : String} {f : Field → Field}

/-- A change succeeds where looking up succeeds, and changes what is found there. -/
theorem modifyField_eq (form : Form) (category label : String) (f : Field → Field) :
    form.modifyField category label f = (form.field category label).map fun _ => { form with
      groups := modifyFirst (·.name = category) (·.modifyField label f) form.groups } := by
  unfold modifyField field
  cases hgroup : form.group? category with
  | none =>
    rw [changeFirst_of_none hgroup]
    rfl
  | some group =>
    rw [changeFirst_of_some hgroup]
    dsimp only
    cases hfield : group.field? label with
    | none =>
      rw [changeFirst_of_none hfield]
      rfl
    | some field =>
      have hfields : modifyFirst (·.label = label) (fun _ => f field) group.fields =
          modifyFirst (·.label = label) f group.fields := modifyFirst_congr hfield rfl
      have hgroups : modifyFirst (·.name = category) (fun _ => group.modifyField label f)
          form.groups = modifyFirst (·.name = category) (·.modifyField label f) form.groups :=
        modifyFirst_congr hgroup rfl
      rw [changeFirst_of_some hfield]
      simp only [Except.map, bind, Except.bind, hfields, ← hgroups]
      rfl

theorem modifyField_eq_ok : form.modifyField category label f = .ok changed ↔
    (∃ field, form.field category label = .ok field) ∧
      { form with
        groups := modifyFirst (·.name = category) (·.modifyField label f) form.groups } =
        changed := by
  rw [modifyField_eq]
  cases form.field category label <;> simp [Except.map]

theorem modifyField_eq_error_iff {problem : Problem} :
    form.modifyField category label f = .error problem ↔
      form.field category label = .error problem := by
  rw [modifyField_eq]
  cases form.field category label <;> simp [Except.map]

end Form

end IdentityForms
