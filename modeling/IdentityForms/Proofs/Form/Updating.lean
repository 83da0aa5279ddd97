import IdentityForms.Proofs.Form.Placement

/-! Fields updated by name, also where names are given twice. An update concerns one place, the one
where the names are looked up, and leaves all others alone; so updates of different places come to
the same in either order. -/
namespace IdentityForms

section

variable {α : Type} {p q : α → Bool} {f g : α → α}

theorem find?_modifyFirst_key {key : α → String} (hf : ∀ a, key (f a) = key a)
    (name other : String) (as : List α) :
    (modifyFirst (key · = name) f as).find? (key · = other) =
      (as.find? (key · = other)).map fun a => if other = name then f a else a := by
  induction as with
  | nil => rfl
  | cons a as ih =>
    by_cases ha : key a = name
    · by_cases hother : other = name
      · simp [modifyFirst, ha, hf, hother]
      · simp [modifyFirst, ha, hf, hother, Ne.symm hother]
    · by_cases hother : key a = other
      · simp [modifyFirst, hother, hother ▸ ha]
      · simp [modifyFirst, ha, hother, ih]

theorem modifyFirst_modifyFirst (hf : ∀ a, p (f a) = p a) (as : List α) :
    modifyFirst p g (modifyFirst p f as) = modifyFirst p (fun a => g (f a)) as := by
  induction as with
  | nil => rfl
  | cons a as ih => by_cases ha : p a <;> simp [modifyFirst, ha, hf, ih]

theorem modifyFirst_comm (hf : ∀ a, q (f a) = q a) (hg : ∀ a, p (g a) = p a)
    (h : ∀ a, p a → q a → f (g a) = g (f a)) (as : List α) :
    modifyFirst p f (modifyFirst q g as) = modifyFirst q g (modifyFirst p f as) := by
  induction as with
  | nil => rfl
  | cons a as ih =>
    by_cases hp : p a
    · by_cases hq : q a
      · simp [modifyFirst, hp, hq, hf, hg, h a hp hq]
      · simp [modifyFirst, hp, hq, hf]
    · by_cases hq : q a <;> simp [modifyFirst, hp, hq, hg, ih]

end

namespace Form

/-- Where the field of two names stands: the first label in the first group. -/
def position? (form : Form) (category label : String) : Option (Nat × Nat) := do
  let i ← form.groups.findIdx? (·.name = category)
  let group ← form.groups[i]?
  let j ← group.fields.findIdx? (·.label = label)
  some (i, j)

def fieldAt? (form : Form) (position : Nat × Nat) : Option Field :=
  form.groups[position.1]?.bind (·.fields[position.2]?)

/-- The names of the groups, each with the labels of its fields. -/
def outline (form : Form) : List (String × List String) :=
  form.groups.map fun group => (group.name, group.labels)

/-- The form after an update, and the problem of one that fails and leaves the form as it was. -/
def updated (form : Form) (update : Form → Except Problem Form) : Form × Option Problem :=
  match update form with
  | .ok changed => (changed, none)
  | .error problem => (form, some problem)

/-- Two updates of a form come to the same in either order, and neither is told anything else
because of the other. -/
structure Commute (form : Form) (first second : Form → Except Problem Form) : Prop where
  either_order :
    ((form.updated first).1.updated second).1 = ((form.updated second).1.updated first).1
  second_told : ((form.updated first).1.updated second).2 = (form.updated second).2
  first_told : ((form.updated second).1.updated first).2 = (form.updated first).2

variable {form changed : Form} {category label : String} {f g : Field → Field}

theorem Group.field?_modifyField (hf : ∀ field, (f field).label = field.label) (group : Group)
    (other : String) : (group.modifyField label f).field? other =
      (group.field? other).map fun field => if other = label then f field else field :=
  find?_modifyFirst_key hf label other group.fields

theorem group?_modifyField (h : form.modifyField category label f = .ok changed) (other : String) :
    changed.group? other = (form.group? other).map fun group =>
      if other = category then group.modifyField label f else group := by
  obtain ⟨-, rfl⟩ := modifyField_eq_ok.mp h
  have hname (group : Group) : (group.modifyField label f).name = group.name := rfl
  exact find?_modifyFirst_key hname category other form.groups

/-- What is found under any names after an update, problems included. -/
theorem field_modifyField (hf : ∀ field, (f field).label = field.label)
    (h : form.modifyField category label f = .ok changed) (other otherLabel : String) :
    changed.field other otherLabel = (form.field other otherLabel).map fun field =>
      if (other, otherLabel) = (category, label) then f field else field := by
  unfold field
  rw [group?_modifyField h]
  cases form.group? other with
  | none => rfl
  | some group =>
    simp only [Option.map_some, Prod.mk.injEq]
    by_cases hother : other = category
    · simp only [hother, if_true, true_and, Group.field?_modifyField hf]
      cases group.field? otherLabel <;> rfl
    · simp only [hother, if_false, false_and]
      cases group.field? otherLabel <;> rfl

theorem field?_modifyField (hf : ∀ field, (f field).label = field.label)
    (h : form.modifyField category label f = .ok changed) (other otherLabel : String) :
    changed.field? other otherLabel = (form.field? other otherLabel).map fun field =>
      if (other, otherLabel) = (category, label) then f field else field := by
  rw [field?_eq_toOption, field?_eq_toOption, field_modifyField hf h]
  cases form.field other otherLabel <;> rfl

/-- Looking names up is finding their place and looking there. -/
theorem field?_eq_fieldAt? (form : Form) (category label : String) :
    form.field? category label = (form.position? category label).bind form.fieldAt? := by
  unfold field? group? position? Group.field?
  rw [List.find?_eq_bind_findIdx?_getElem?]
  cases form.groups.findIdx? (·.name = category) with
  | none => rfl
  | some i =>
    simp only [Option.bind_some, bind]
    cases hgroup : form.groups[i]? with
    | none => rfl
    | some group =>
      simp only [Option.bind_some]
      rw [List.find?_eq_bind_findIdx?_getElem?]
      cases group.fields.findIdx? (·.label = label) with
      | none => rfl
      | some j => simp [fieldAt?, hgroup]

theorem position?_eq_some {position : Nat × Nat} :
    form.position? category label = some position ↔
      form.groups.findIdx? (·.name = category) = some position.1 ∧
      ∃ group, form.groups[position.1]? = some group ∧
        group.fields.findIdx? (·.label = label) = some position.2 := by
  unfold position?
  simp only [Option.bind_eq_bind, Option.bind_eq_some_iff, Option.some.injEq]
  constructor
  · rintro ⟨i, hi, group, hgroup, j, hj, rfl⟩
    exact ⟨hi, group, hgroup, hj⟩
  · rintro ⟨hi, group, hgroup, hj⟩
    exact ⟨_, hi, group, hgroup, _, hj, rfl⟩

/-- What stands at any place after an update. -/
theorem fieldAt?_modifyField (h : form.modifyField category label f = .ok changed)
    (position : Nat × Nat) : changed.fieldAt? position = (form.fieldAt? position).map fun field =>
      if form.position? category label = some position then f field else field := by
  obtain ⟨-, rfl⟩ := modifyField_eq_ok.mp h
  unfold fieldAt?
  rw [getElem?_modifyFirst]
  cases hgroup : form.groups[position.1]? with
  | none => rfl
  | some group =>
    by_cases hi : form.groups.findIdx? (·.name = category) = some position.1
    · simp [position?_eq_some, hgroup, hi, Group.modifyField, getElem?_modifyFirst]
    · simp [position?_eq_some, hi]

theorem outline_modifyField (hf : ∀ field, (f field).label = field.label)
    (h : form.modifyField category label f = .ok changed) : changed.outline = form.outline := by
  obtain ⟨-, rfl⟩ := modifyField_eq_ok.mp h
  apply map_modifyFirst
  intro group
  exact congrArg (group.name, ·) (map_modifyFirst hf group.fields)

theorem exists_modifyField : (∃ changed, form.modifyField category label f = .ok changed) ↔
    ∃ field, form.field? category label = some field := by
  simp only [modifyField_eq_ok, field_eq_ok, exists_and_left, exists_eq', and_true]

theorem Group.modifyField_modifyField (hf : ∀ field, (f field).label = field.label)
    (group : Group) : (group.modifyField label f).modifyField label g =
      group.modifyField label fun field => g (f field) :=
  congrArg (Group.mk group.name) (modifyFirst_modifyFirst (fun field => by rw [hf]) group.fields)

theorem modifyField_modifyField (hf : ∀ field, (f field).label = field.label)
    (h : form.modifyField category label f = .ok changed) (g : Field → Field) :
    changed.modifyField category label g = form.modifyField category label fun field =>
      g (f field) := by
  obtain ⟨⟨field, hfield⟩, hchanged⟩ := modifyField_eq_ok.mp h
  have hfound : changed.field category label = .ok (f field) := by
    rw [field_modifyField hf h, hfield, Except.map, if_pos rfl]
  rw [modifyField_eq_ok.mpr ⟨⟨_, hfound⟩, rfl⟩, modifyField_eq_ok.mpr ⟨⟨field, hfield⟩, rfl⟩,
    ← hchanged]
  congr 2
  refine (modifyFirst_modifyFirst ?_ form.groups).trans ?_
  · exact fun _ => rfl
  · simp only [Group.modifyField_modifyField hf]

section

variable {other otherLabel : String} (hf : ∀ field, (f field).label = field.label)
  (hg : ∀ field, (g field).label = field.label)

include hg in
theorem modifyField_of_error {problem : Problem}
    (h : form.modifyField other otherLabel g = .ok changed)
    (herror : form.modifyField category label f = .error problem) :
    changed.modifyField category label f = .error problem := by
  rw [modifyField_eq_error_iff] at herror ⊢
  rw [field_modifyField hg h, herror]
  rfl

include hf hg

theorem Group.modifyField_comm (h : otherLabel ≠ label ∨ ∀ field, f (g field) = g (f field))
    (group : Group) : (group.modifyField otherLabel g).modifyField label f =
      (group.modifyField label f).modifyField otherLabel g := by
  refine congrArg (Group.mk group.name) (modifyFirst_comm ?_ ?_ ?_ group.fields)
  · exact fun field => by rw [hf]
  · exact fun field => by rw [hg]
  · intro field hlabel hother
    rcases h with hne | hcomm
    · exact absurd ((of_decide_eq_true hother).symm.trans (of_decide_eq_true hlabel)) hne
    · exact hcomm field

theorem exists_modifyField_comm {changed' : Form}
    (h : (other, otherLabel) ≠ (category, label) ∨ ∀ field, f (g field) = g (f field))
    (hchanged : form.modifyField category label f = .ok changed)
    (hchanged' : form.modifyField other otherLabel g = .ok changed') :
    ∃ last, changed.modifyField other otherLabel g = .ok last ∧
      changed'.modifyField category label f = .ok last := by
  obtain ⟨⟨field, hfield⟩, hgroups⟩ := modifyField_eq_ok.mp hchanged
  obtain ⟨⟨field', hfield'⟩, hgroups'⟩ := modifyField_eq_ok.mp hchanged'
  have hfound : changed.field other otherLabel = .ok _ :=
    (field_modifyField hf hchanged other otherLabel).trans (congrArg (Except.map _) hfield')
  have hfound' : changed'.field category label = .ok _ :=
    (field_modifyField hg hchanged' category label).trans (congrArg (Except.map _) hfield)
  refine ⟨_, modifyField_eq_ok.mpr ⟨⟨_, hfound⟩, rfl⟩, modifyField_eq_ok.mpr ⟨⟨_, hfound'⟩, ?_⟩⟩
  rw [← hgroups, ← hgroups']
  refine congrArg (Form.mk form.provider? form.selector)
    (modifyFirst_comm ?_ ?_ ?_ form.groups)
  · exact fun _ => rfl
  · exact fun _ => rfl
  · intro group hname hother
    apply group.modifyField_comm hf hg
    apply h.imp_left
    intro hne hlabel
    exact hne (Prod.ext ((of_decide_eq_true hother).symm.trans (of_decide_eq_true hname)) hlabel)

/-- Updates commute unless they concern one place, and there if they commute on every field. -/
theorem commute_modifyField
    (h : (other, otherLabel) ≠ (category, label) ∨ ∀ field, f (g field) = g (f field)) :
    form.Commute (·.modifyField category label f) (·.modifyField other otherLabel g) := by
  cases hfirst : form.modifyField category label f with
  | error problem =>
    cases hsecond : form.modifyField other otherLabel g with
    | error problem' => constructor <;> simp [updated, hfirst, hsecond]
    | ok changed' =>
      have hstill := modifyField_of_error hg hsecond hfirst
      constructor <;> simp [updated, hfirst, hsecond, hstill]
  | ok changed =>
    cases hsecond : form.modifyField other otherLabel g with
    | error problem' =>
      have hstill := modifyField_of_error hf hfirst hsecond
      constructor <;> simp [updated, hfirst, hsecond, hstill]
    | ok changed' =>
      obtain ⟨last, hlast, hlast'⟩ := exists_modifyField_comm hf hg h hfirst hsecond
      constructor <;> simp [updated, hfirst, hsecond, hlast, hlast']

end

/-- Filling succeeds just where a field is found, and then the field found there has the new value
and is otherwise as it was, in the same place as before. Nothing else changes, neither at another
place nor under other names. A second filling makes the first one void. Fillings of different names
commute, and so does filling with touching. -/
theorem fill_lens (form : Form) (category label value : String) :
    ((∃ changed, form.fill category label value = .ok changed) ↔
      ∃ field, form.field? category label = some field) ∧
    (∀ changed, form.fill category label value = .ok changed →
      (∃ field position, form.field? category label = some field ∧
        form.position? category label = some position ∧ form.fieldAt? position = some field ∧
        let filled := { field with entry := { field.entry with value } }
        changed.field? category label = some filled ∧ changed.fieldAt? position = some filled ∧
        ∀ other, other ≠ position → changed.fieldAt? other = form.fieldAt? other) ∧
      changed.selector = form.selector ∧ changed.provider? = form.provider? ∧
      changed.outline = form.outline ∧
      (∀ other otherLabel, (other, otherLabel) ≠ (category, label) →
        changed.field? other otherLabel = form.field? other otherLabel) ∧
      ∀ again, changed.fill category label again = form.fill category label again) ∧
    (∀ other otherLabel again, (other, otherLabel) ≠ (category, label) →
      form.Commute (·.fill category label value) (·.fill other otherLabel again)) ∧
    ∀ other otherLabel, form.Commute (·.fill category label value) (·.touch other otherLabel) := by
  have hfill (value : String) (field : Field) : (field.fill value).label = field.label := rfl
  refine ⟨exists_modifyField, ?_, ?_, ?_⟩
  · intro changed h
    obtain ⟨-, hchanged⟩ := modifyField_eq_ok.mp h
    have hplaces := fieldAt?_modifyField h
    have hnames := field?_modifyField (hfill value) h
    obtain ⟨field, hfield⟩ := exists_modifyField.mp ⟨changed, h⟩
    obtain ⟨position, hposition, hplace⟩ :=
      Option.bind_eq_some_iff.mp ((form.field?_eq_fieldAt? category label).symm.trans hfield)
    refine ⟨⟨field, position, hfield, hposition, hplace, ?_, ?_, ?_⟩, ?_, ?_, ?_, ?_, ?_⟩
    · rw [hnames, hfield, Option.map_some, if_pos rfl]
      rfl
    · rw [hplaces, hplace, Option.map_some, if_pos hposition]
      rfl
    · intro other hother
      simp [hplaces, hposition, Ne.symm hother]
    · exact (congrArg Form.selector hchanged).symm
    · exact (congrArg Form.provider? hchanged).symm
    · exact outline_modifyField (hfill value) h
    · intro other otherLabel hne
      simp only [hnames, if_neg hne, Option.map_id']
    · intro again
      exact modifyField_modifyField (hfill value) h (·.fill again)
  · intro other otherLabel again hne
    exact commute_modifyField (hfill value) (hfill again) (.inl hne)
  · intro other otherLabel
    exact commute_modifyField (hfill value) (fun _ => rfl) (.inr fun _ => rfl)

/-- A form in which both a label and the name of a group are given twice. -/
def twinForm : Form :=
  { forProvider "A" with
    groups := [⟨"P", [⟨"N", none, [], {}⟩, ⟨"N", none, [], {}⟩]⟩,
      ⟨"P", [⟨"N", none, [], {}⟩, ⟨"L", none, [], {}⟩]⟩] }

theorem fill_lens_twins : ∃ changed, twinForm.fill "P" "N" "x" = .ok changed ∧
    changed.fieldAt? (0, 0) = some ⟨"N", none, [], { value := "x" }⟩ ∧
    changed.fieldAt? (0, 1) = twinForm.fieldAt? (0, 1) ∧
    changed.fieldAt? (1, 0) = twinForm.fieldAt? (1, 0) ∧
    (¬ ∃ other, twinForm.fill "P" "L" "x" = .ok other) ∧
    ("P", "L") ≠ ("P", "N") ∧
    twinForm.Commute (·.fill "P" "N" "x") (·.fill "P" "L" "y") := by
  have hlaws := fill_lens twinForm "P" "N" "x"
  have hposition : twinForm.position? "P" "N" = some (0, 0) := by decide
  obtain ⟨changed, hchanged⟩ := hlaws.1.mpr ⟨⟨"N", none, [], {}⟩, by decide⟩
  obtain ⟨⟨field, position, hfield, hplace, -, -, hfilled, hothers⟩, -⟩ :=
    hlaws.2.1 changed hchanged
  cases hposition.symm.trans hplace
  cases (show twinForm.field? "P" "N" = some ⟨"N", none, [], {}⟩ by decide).symm.trans hfield
  have hunknown : ¬ ∃ field, twinForm.field? "P" "L" = some field := by
    rw [show twinForm.field? "P" "L" = none by decide]
    simp
  exact ⟨changed, hchanged, hfilled, hothers (0, 1) (by decide), hothers (1, 0) (by decide),
    mt (fill_lens twinForm "P" "L" "x").1.mp hunknown, by decide,
    hlaws.2.2.1 "P" "L" "y" (by decide)⟩

end Form

end IdentityForms
