import IdentityForms.Proofs.Form.Checked
import IdentityForms.Proofs.Form.Filling

/-! The places of the fields of a form in display order. No operation on fields moves one. An
operation that gives names concerns the first field that stands under them, wherever else the same
names are given again. -/
namespace IdentityForms

section

variable {α : Type} {p : α → Bool} {f : α → α} {front back : List α}

theorem getElem?_modifyFirst (as : List α) (i : Nat) :
    (modifyFirst p f as)[i]? = (as[i]?).map fun a => if as.findIdx? p = some i then f a else a := by
  induction as generalizing i with
  | nil => rfl
  | cons a as ih =>
    by_cases h : p a
    · cases i <;> simp [modifyFirst, h, List.findIdx?_cons]
    · cases i with
      | zero => simp [modifyFirst, h, List.findIdx?_cons]
      | succ i => simp [modifyFirst, h, List.findIdx?_cons, ih]

theorem modifyFirst_append_of_exists (h : ∃ a ∈ front, p a) :
    modifyFirst p f (front ++ back) = modifyFirst p f front ++ back := by
  induction front with
  | nil => simp at h
  | cons a front ih =>
    by_cases ha : p a
    · simp [modifyFirst, ha]
    · simp only [List.mem_cons, exists_eq_or_imp, ha, Bool.false_eq_true, false_or] at h
      simp [modifyFirst, ha, ih h]

theorem modifyFirst_append_of_forall (h : ∀ a ∈ front, ¬ p a) :
    modifyFirst p f (front ++ back) = front ++ modifyFirst p f back := by
  induction front with
  | nil => rfl
  | cons a front ih =>
    rw [List.forall_mem_cons] at h
    simp [modifyFirst, h.1, ih h.2]

end

theorem modifyFirst_map {α β : Type} {q : β → Bool} {f : α → α} {g : β → β} {e : α → β}
    (h : ∀ a, g (e a) = e (f a)) (as : List α) :
    modifyFirst q g (as.map e) = (modifyFirst (fun a => q (e a)) f as).map e := by
  induction as with
  | nil => rfl
  | cons a as ih => by_cases ha : q (e a) <;> simp [modifyFirst, ha, h, ih]

namespace Form

def Group.placed (group : Group) : List (Path × Field) :=
  group.fields.map fun field => (⟨some group.name, field.label⟩, field)

/-- Where in display order the first field stands that has a path. -/
def place? (form : Form) (path : Path) : Option Nat := form.placed.findIdx? (·.1 = path)

variable {form changed : Form} {category label : String} {f : Field → Field}

theorem placed_eq (form : Form) :
    form.placed = (selectorPath, form.selector) :: form.groups.flatMap Group.placed := rfl

theorem mapFields_mapFields (g : Field → Field) (form : Form) :
    (form.mapFields f).mapFields g = form.mapFields fun field => g (f field) := by
  simp [mapFields, Group.mapFields, Function.comp_def]

theorem placed_mapFields (hlabel : ∀ field, (f field).label = field.label) (form : Form) :
    (form.mapFields f).placed = form.placed.map (Prod.map id f) := by
  simp [placed, mapFields, Group.mapFields, List.map_flatMap, List.flatMap_map, hlabel,
    Function.comp_def]

theorem placed_checked (form : Form) (now : Moment) :
    (form.checked now).placed = form.placed.map (Prod.map id (·.checked now)) := by
  unfold checked validate touchAll
  rw [placed_mapFields (f := (·.validate now)) fun _ => rfl,
    placed_mapFields (f := (·.touch)) fun _ => rfl, List.map_map]
  rfl

theorem Group.placed_modifyField {group : Group} (hlabel : ∀ field, (f field).label = field.label) :
    (group.modifyField label f).placed =
      modifyFirst (·.1 = (⟨some group.name, label⟩ : Path)) (Prod.map id f) group.placed := by
  unfold placed
  rw [modifyFirst_map (f := f) fun field => by simp [hlabel]]
  simp [modifyField]

theorem flatMap_placed_modifyFirst (hlabel : ∀ field, (f field).label = field.label)
    {groups : List Group} {group : Group} {field : Field}
    (hgroup : groups.find? (·.name = category) = some group)
    (hfield : group.field? label = some field) :
    (modifyFirst (·.name = category) (·.modifyField label f) groups).flatMap Group.placed =
      modifyFirst (·.1 = (⟨some category, label⟩ : Path)) (Prod.map id f)
        (groups.flatMap Group.placed) := by
  induction groups with
  | nil => cases hgroup
  | cons first groups ih =>
    rw [List.flatMap_cons]
    by_cases hname : first.name = category
    · have hfirst : first = group := by simpa [hname] using hgroup
      subst hfirst hname
      have hmem : field ∈ first.fields := List.mem_of_find?_eq_some hfield
      have hfound : field.label = label := by simpa using List.find?_some hfield
      rw [modifyFirst_append_of_exists, ← Group.placed_modifyField hlabel]
      · simp [modifyFirst]
      · exact ⟨_, List.mem_map_of_mem hmem, by simp [hfound]⟩
    · rw [List.find?_cons_of_neg (by simpa using hname)] at hgroup
      rw [modifyFirst_append_of_forall, ← ih hgroup]
      · simp [modifyFirst, hname]
      · simp [Group.placed, hname]

/-- Of all fields with a path, an operation that gives its names changes the first. -/
theorem placed_modifyField (hlabel : ∀ field, (f field).label = field.label)
    (h : form.modifyField category label f = .ok changed) : changed.placed =
      modifyFirst (·.1 = (⟨some category, label⟩ : Path)) (Prod.map id f) form.placed := by
  obtain ⟨⟨field, hfound⟩, rfl⟩ := modifyField_eq_ok.mp h
  obtain ⟨group, hgroup, hfield⟩ := Option.bind_eq_some_iff.mp (field_eq_ok.mp hfound)
  rw [placed_eq, placed_eq, flatMap_placed_modifyFirst hlabel hgroup hfield]
  simp [modifyFirst, selectorPath]

theorem getElem?_fields (form : Form) (i : Nat) : form.fields[i]? = (form.placed[i]?).map (·.2) := by
  rw [← map_snd_placed, List.getElem?_map]

theorem getElem?_fields_modifyField (hlabel : ∀ field, (f field).label = field.label)
    (h : form.modifyField category label f = .ok changed) (i : Nat) :
    changed.fields[i]? = (form.fields[i]?).map fun field =>
      if form.place? ⟨some category, label⟩ = some i then f field else field := by
  rw [getElem?_fields, getElem?_fields, placed_modifyField hlabel h, getElem?_modifyFirst,
    Option.map_map, Option.map_map]
  congr 1
  funext entry
  exact apply_ite Prod.snd _ _ _

theorem isValid_iff_invalidPaths : form.isValid ↔ form.invalidPaths = [] := by
  rw [isValid, invalidPaths, ← map_snd_placed, List.all_map, List.map_eq_nil_iff,
    List.filter_eq_nil_iff, List.all_eq_true]
  simp

end Form

end IdentityForms
