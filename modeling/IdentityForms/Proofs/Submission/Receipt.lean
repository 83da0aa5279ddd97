import IdentityForms.Proofs.Entries
import IdentityForms.Proofs.Form.Addressing
import IdentityForms.Proofs.Submission.Verdict
import Mathlib.Data.List.Nodup

/-! What can be read back from the object that is made of a receipt. The key of the selector stands
among the names of the groups, and a group of the same name takes its place. -/
namespace IdentityForms

def Json.member? (name : String) : Json → Option Json
  | .object members => members.lookup name
  | _ => none

namespace Submission.Receipt

/-- The provider under the key of the selector, and after it every value under its group and its
label. -/
def listing (receipt : Receipt) : Json :=
  .object ((receipt.selectorKey, .string receipt.provider) ::
    receipt.groups.map fun (name, values) =>
      (name, .object (values.map fun (label, value) => (label, .string value))))

def names (receipt : Receipt) : List String := receipt.groups.map Prod.fst

/-- No two groups have one name, and no two values of a group have one label. -/
structure Distinct (receipt : Receipt) : Prop where
  names : receipt.names.Nodup
  labels : ∀ group ∈ receipt.groups, (group.2.map Prod.fst).Nodup

def groupMembers (receipt : Receipt) : List (String × Json) :=
  receipt.groups.map fun (name, values) => (name, jsonOfGroup values)

/-- The members of the object, as they are put into it one after the other. -/
def members (receipt : Receipt) : List (String × Json) :=
  (receipt.selectorKey, .string receipt.provider) :: receipt.groupMembers

variable {receipt : Receipt}

theorem toJson_eq (receipt : Receipt) : receipt.toJson = .object (Entries.ofList receipt.members) :=
  rfl

theorem names_groupMembers (receipt : Receipt) :
    receipt.groupMembers.map Prod.fst = receipt.names := by
  simp [groupMembers, names, Function.comp_def]

theorem member?_toJson (receipt : Receipt) (name : String) : receipt.toJson.member? name =
    (receipt.groupMembers.reverse.lookup name).or
      (if name = receipt.selectorKey then some (.string receipt.provider) else none) := by
  rw [toJson_eq]
  unfold Json.member? members
  dsimp only
  rw [Entries.lookup_ofList, List.reverse_cons, List.lookup_append]
  by_cases h : name = receipt.selectorKey
  · simp [h]
  · simp [List.lookup_cons, h, beq_false_of_ne h]

theorem distinct_ofForm {form : Form} (h : form.Distinct) (selectorKey : String) (now : Moment) :
    (ofForm (form.checked now) selectorKey now).Distinct where
  names := by
    rw [names, groups_ofForm_checked, List.map_map]
    exact h.names
  labels := by
    intro values hvalues
    rw [groups_ofForm_checked] at hvalues
    obtain ⟨group, hgroup, rfl⟩ := List.mem_map.mp hvalues
    rw [List.map_map]
    exact h.labels group hgroup

namespace Distinct

theorem jsonOfGroup_eq (h : receipt.Distinct) {group : String × List (String × String)}
    (hgroup : group ∈ receipt.groups) :
    jsonOfGroup group.2 = .object (group.2.map fun (label, value) => (label, .string value)) := by
  unfold jsonOfGroup
  rw [Entries.ofList_eq_self_iff.mpr]
  rw [List.map_map]
  exact h.labels group hgroup

theorem object_members (h : receipt.Distinct) : .object receipt.members = receipt.listing := by
  unfold members groupMembers listing
  congr 2
  apply List.map_congr_left
  intro group hgroup
  exact congrArg (group.1, ·) (h.jsonOfGroup_eq hgroup)

theorem nodup_members_iff (h : receipt.Distinct) :
    (receipt.members.map Prod.fst).Nodup ↔ receipt.selectorKey ∉ receipt.names := by
  rw [members, List.map_cons, names_groupMembers, List.nodup_cons, and_iff_left h.names]

theorem toJson_eq_listing_iff (h : receipt.Distinct) :
    receipt.toJson = receipt.listing ↔ receipt.selectorKey ∉ receipt.names := by
  rw [← h.object_members, toJson_eq, Json.object.injEq, Entries.ofList_eq_self_iff,
    h.nodup_members_iff]

theorem member?_group (h : receipt.Distinct) {group : String × List (String × String)}
    (hgroup : group ∈ receipt.groups) :
    receipt.toJson.member? group.1 = some (jsonOfGroup group.2) := by
  have hnames : (receipt.groupMembers.reverse.map Prod.fst).Nodup := by
    rw [List.map_reverse, List.nodup_reverse, names_groupMembers]
    exact h.names
  have hmem : (group.1, jsonOfGroup group.2) ∈ receipt.groupMembers.reverse :=
    List.mem_reverse.mpr (List.mem_map.mpr ⟨group, hgroup, rfl⟩)
  rw [member?_toJson, Entries.lookup_of_mem hnames hmem, Option.some_or]

theorem member?_value (h : receipt.Distinct) {group : String × List (String × String)}
    (hgroup : group ∈ receipt.groups) {entry : String × String} (hentry : entry ∈ group.2) :
    (receipt.toJson.member? group.1).bind (Json.member? entry.1) = some (.string entry.2) := by
  rw [h.member?_group hgroup, h.jsonOfGroup_eq hgroup, Option.bind_some]
  apply Entries.lookup_of_mem
  · rw [List.map_map]
    exact h.labels group hgroup
  · exact List.mem_map.mpr ⟨entry, hentry, rfl⟩

theorem member?_selectorKey_iff (h : receipt.Distinct) :
    receipt.toJson.member? receipt.selectorKey = some (.string receipt.provider) ↔
      receipt.selectorKey ∉ receipt.names := by
  constructor
  · intro hmember hname
    obtain ⟨group, hgroup, hkey⟩ := List.mem_map.mp hname
    rw [← hkey, h.member?_group hgroup] at hmember
    cases hmember
  · intro hname
    have hnone : receipt.groupMembers.reverse.lookup receipt.selectorKey = none := by
      rw [List.lookup_eq_none_iff]
      intro entry hentry
      have hmem : entry.1 ∈ receipt.names :=
        names_groupMembers receipt ▸ List.mem_map_of_mem (List.mem_reverse.mp hentry)
      exact bne_iff_ne.mpr fun heq => hname (heq ▸ hmem)
    rw [member?_toJson, hnone, Option.none_or, if_pos rfl]

end Distinct

end Submission.Receipt

end IdentityForms
