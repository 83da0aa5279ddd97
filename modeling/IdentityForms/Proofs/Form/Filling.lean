import IdentityForms.Proofs.Form.Addressing

/-! Fields changed where they stand. Where no name is given twice, filling the fields of some spots
changes these and no others, whatever the order in which they are filled. -/
namespace IdentityForms

theorem modifyFirst_of_nodup {α : Type} {key : α → String} {name : String} {f : α → α}
    {as : List α} (h : (as.map key).Nodup) :
    modifyFirst (key · = name) f as = as.map fun a => if key a = name then f a else a := by
  induction as with
  | nil => rfl
  | cons a as ih =>
    obtain ⟨hfresh, h⟩ := List.nodup_cons.mp h
    by_cases ha : key a = name
    · have hrest : ∀ b ∈ as, key b ≠ name := fun b hb heq =>
        hfresh (List.mem_map.mpr ⟨b, hb, heq.trans ha.symm⟩)
      have hmap : as.map (fun a => if key a = name then f a else a) = as := by
        rw [List.map_congr_left fun b hb => if_neg (hrest b hb), List.map_id']
      simp [modifyFirst, ha, hmap]
    · simp [modifyFirst, ha, ih h]

namespace Form

/-- Where a field stands: the name of its group and its label. -/
abbrev Spot := String × String

/-- The form with the fields in its groups changed, each as the name of its group says. -/
def adjust (f : String → Field → Field) (form : Form) : Form :=
  { form with groups := form.groups.map fun group => group.mapFields (f group.name) }

def fillAll (form : Form) (value : Spot → String) (spots : List Spot) : Except Problem Form :=
  spots.foldlM (fun form spot => form.fill spot.1 spot.2 (value spot)) form

variable {form : Form} {f : String → Field → Field}

theorem field_eq_ok {category label : String} {field : Field} :
    form.field category label = .ok field ↔ form.field? category label = some field := by
  rw [field?_eq_toOption]
  cases form.field category label <;> simp [Except.toOption]

theorem Group.field?_mapFields {g : Field → Field} (hg : ∀ field, (g field).label = field.label)
    (group : Group) (label : String) :
    (group.mapFields g).field? label = (group.field? label).map g := by
  unfold field? mapFields
  rw [List.find?_map]
  congr 2
  funext field
  simp only [Function.comp_apply, hg]

theorem adjust_adjust (g : String → Field → Field) : (form.adjust f).adjust g =
    form.adjust fun name field => g name (f name field) := by
  simp [adjust, Group.mapFields, Function.comp_def]

theorem field?_adjust (hf : ∀ name field, (f name field).label = field.label)
    (category label : String) : (form.adjust f).field? category label =
      (form.field? category label).map (f category) := by
  unfold field? group? adjust
  rw [List.find?_map]
  simp only [Function.comp_def, Group.mapFields]
  cases hgroup : form.groups.find? (·.name = category) with
  | none => rfl
  | some group =>
    have hname : group.name = category := by simpa using List.find?_some hgroup
    subst hname
    exact group.field?_mapFields (hf group.name) label

theorem Distinct.adjust (h : form.Distinct)
    (hf : ∀ name field, (f name field).label = field.label) : (form.adjust f).Distinct := by
  constructor
  · simpa [Form.adjust, Function.comp_def, Group.mapFields] using h.names
  · simpa [Form.adjust, Group.labels, Group.mapFields, hf, Function.comp_def] using h.labels

theorem Distinct.modifyField (h : form.Distinct) {spot : Spot}
    (hspot : (form.field? spot.1 spot.2).isSome) (change : Field → Field) :
    form.modifyField spot.1 spot.2 change = .ok (form.adjust fun name field =>
      if (name, field.label) = spot then change field else field) := by
  obtain ⟨field, hfield⟩ := Option.isSome_iff_exists.mp hspot
  refine modifyField_eq_ok.mpr ⟨⟨field, field_eq_ok.mpr hfield⟩, ?_⟩
  obtain ⟨category, label⟩ := spot
  unfold Form.adjust
  congr 1
  rw [modifyFirst_of_nodup h.names]
  apply List.map_congr_left
  intro group hgroup
  by_cases hname : group.name = category
  · rw [if_pos hname, Group.modifyField, modifyFirst_of_nodup (h.labels group hgroup)]
    simp [Group.mapFields, hname]
  · simp [Group.mapFields, hname]

/-- The field at a spot filled, if the spot is one of those that are filled. -/
def fillingAt (value : Spot → String) (spots : List Spot) (name : String) (field : Field) : Field :=
  if (name, field.label) ∈ spots then field.fill (value (name, field.label)) else field

section

variable (value : Spot → String) (spots : List Spot) (name : String) (field : Field)

theorem label_fillingAt : (fillingAt value spots name field).label = field.label := by
  unfold fillingAt
  split <;> rfl

theorem value_fillingAt : (fillingAt value spots name field).entry.value =
    if (name, field.label) ∈ spots then value (name, field.label) else field.entry.value := by
  unfold fillingAt
  split <;> rfl

theorem fillingAt_cons (spot : Spot) :
    fillingAt value spots name (fillingAt value [spot] name field) =
      fillingAt value (spot :: spots) name field := by
  unfold fillingAt
  by_cases hspot : (name, field.label) = spot
  · by_cases hspots : (name, field.label) ∈ spots <;> simp [← hspot, hspots, Field.fill]
  · simp [hspot]

end

theorem adjust_fillingAt_nil (value : Spot → String) : form.adjust (fillingAt value []) = form := by
  have hid : fillingAt value [] = fun _ field => field := by
    funext name field
    simp [fillingAt]
  simp [hid, adjust, Group.mapFields]

theorem Distinct.fill (h : form.Distinct) (value : Spot → String) {spot : Spot}
    (hspot : (form.field? spot.1 spot.2).isSome) :
    form.fill spot.1 spot.2 (value spot) = .ok (form.adjust (fillingAt value [spot])) := by
  have hfilling : fillingAt value [spot] = fun name field =>
      if (name, field.label) = spot then field.fill (value spot) else field := by
    funext name field
    unfold fillingAt
    by_cases heq : (name, field.label) = spot
    · simp [heq]
    · simp [heq]
  rw [hfilling]
  exact h.modifyField hspot (·.fill (value spot))

theorem Distinct.fillAll (h : form.Distinct) (value : Spot → String) {spots : List Spot}
    (hspots : ∀ spot ∈ spots, (form.field? spot.1 spot.2).isSome) :
    form.fillAll value spots = .ok (form.adjust (fillingAt value spots)) := by
  induction spots generalizing form with
  | nil => exact congrArg Except.ok (adjust_fillingAt_nil value).symm
  | cons spot spots ih =>
    obtain ⟨hspot, hspots⟩ := List.forall_mem_cons.mp hspots
    have hlabel := label_fillingAt value [spot]
    -- Filling renames nothing, so the spots that are left still have their fields.
    have hrest : ∀ other ∈ spots,
        ((form.adjust (fillingAt value [spot])).field? other.1 other.2).isSome := by
      intro other hother
      rw [field?_adjust hlabel, Option.isSome_map]
      exact hspots other hother
    unfold Form.fillAll at ih ⊢
    rw [List.foldlM_cons, h.fill value hspot]
    refine (ih (h.adjust hlabel) hrest).trans ?_
    rw [adjust_adjust]
    simp only [fillingAt_cons]

end Form

end IdentityForms
