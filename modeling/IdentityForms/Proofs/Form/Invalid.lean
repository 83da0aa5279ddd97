import IdentityForms.Proofs.Form.Filling
import IdentityForms.Proofs.Form.Checked
import Mathlib.Data.List.Nodup
import Mathlib.Data.Prod.Basic

/-! The spots of the invalid fields of a form. Where no name is given twice, each of them leads back
to the field that it was taken from. -/
namespace IdentityForms.Form

def Group.invalidFields (group : Group) : List Field := group.fields.filter (!·.entry.isValid)

/-- Where the invalid fields stand that are in groups, in display order. -/
def invalidSpots (form : Form) : List Spot :=
  form.groups.flatMap fun group => group.invalidFields.map fun field => (group.name, field.label)

def Spot.path (spot : Spot) : Path := ⟨some spot.1, spot.2⟩

variable {form : Form}

theorem Spot.path_injective : Function.Injective Spot.path := by
  rintro ⟨category, label⟩ ⟨category', label'⟩ h
  cases h
  rfl

theorem invalidPaths_of_selector (h : form.selector.entry.isValid) :
    form.invalidPaths = form.invalidSpots.map Spot.path := by
  simp [invalidPaths, placed, h, invalidSpots, Group.invalidFields, Spot.path, List.filter_flatMap,
    List.map_flatMap, List.filter_map, Function.comp_def]

theorem filter_fields_of_selector (h : form.selector.entry.isValid) :
    form.fields.filter (!·.entry.isValid) = form.groups.flatMap Group.invalidFields := by
  unfold fields
  rw [List.filter_cons_of_neg (by simp [h]), List.filter_flatMap]
  rfl

namespace Distinct

theorem nodup_invalidSpots (h : form.Distinct) : form.invalidSpots.Nodup := by
  unfold invalidSpots
  rw [List.nodup_flatMap]
  constructor
  · intro group hgroup
    have hlabels : (group.invalidFields.map (·.label)).Nodup :=
      (h.labels group hgroup).sublist (List.filter_sublist.map _)
    have hspots := hlabels.map (Prod.mk_right_injective group.name)
    rwa [List.map_map] at hspots
  · have hnames : form.groups.Pairwise fun left right => left.name ≠ right.name :=
      List.pairwise_map.mp h.names
    apply hnames.imp
    intro left right hne spot hleft hright
    obtain ⟨_, _, rfl⟩ := List.mem_map.mp hleft
    obtain ⟨_, _, heq⟩ := List.mem_map.mp hright
    exact hne (congrArg Prod.fst heq).symm

theorem map_field?_invalidSpots (h : form.Distinct) :
    form.invalidSpots.map (fun spot => form.field? spot.1 spot.2) =
      (form.groups.flatMap Group.invalidFields).map some := by
  unfold invalidSpots
  rw [List.map_flatMap, List.map_flatMap]
  apply List.flatMap_congr
  intro group hgroup
  rw [List.map_map]
  apply List.map_congr_left
  intro field hfield
  exact h.field?_of_mem hgroup (List.mem_of_mem_filter hfield)

theorem mem_invalidSpots (h : form.Distinct) {group : Group} (hgroup : group ∈ form.groups)
    {field : Field} (hfield : field ∈ group.fields) :
    (group.name, field.label) ∈ form.invalidSpots ↔ ¬ field.entry.isValid := by
  constructor
  · intro hspot
    obtain ⟨other, hother, hspot⟩ := List.mem_flatMap.mp hspot
    obtain ⟨found, hfound, heq⟩ := List.mem_map.mp hspot
    obtain ⟨hmem, hinvalid⟩ := List.mem_filter.mp hfound
    obtain ⟨hname, hlabel⟩ := Prod.mk.inj heq
    have hat : form.field? group.name field.label = some found :=
      hname ▸ hlabel ▸ h.field?_of_mem hother hmem
    rw [h.field?_of_mem hgroup hfield, Option.some.injEq] at hat
    subst hat
    simpa using hinvalid
  · intro hinvalid
    refine List.mem_flatMap.mpr ⟨group, hgroup, List.mem_map.mpr ⟨field, ?_, rfl⟩⟩
    exact List.mem_filter.mpr ⟨hfield, by simpa using hinvalid⟩

theorem isSome_field?_of_mem (h : form.Distinct) {spot : Spot} (hspot : spot ∈ form.invalidSpots) :
    (form.field? spot.1 spot.2).isSome := by
  obtain ⟨group, hgroup, hspot⟩ := List.mem_flatMap.mp hspot
  obtain ⟨field, hfield, rfl⟩ := List.mem_map.mp hspot
  rw [h.field?_of_mem hgroup (List.mem_of_mem_filter hfield)]
  rfl

end Distinct

end IdentityForms.Form
