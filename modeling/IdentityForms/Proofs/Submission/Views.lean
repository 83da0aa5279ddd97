import IdentityForms.Proofs.Submission.Receipt
import IdentityForms.Proofs.Submission.Recovery

/-! A submitted value as the form, the receipt and the object made of the receipt tell it. A form
and a receipt hold it under the first of equal names and an object under the last, so the three
agree where no name is given twice. -/
namespace IdentityForms

namespace Submission

namespace Receipt

theorem value?_ofForm_checked (form : Form) (selectorKey : String) (now : Moment)
    (category label : String) :
    (ofForm (form.checked now) selectorKey now).value? category label =
      (form.field? category label).map (·.entry.value) := by
  unfold value? Form.field? Form.group?
  rw [groups_ofForm_checked, Entries.lookup_map_key]
  cases form.groups.find? (·.name = category) with
  | none => rfl
  | some group => exact Entries.lookup_map_key _ _ label group.fields

variable {receipt : Receipt}

theorem Distinct.lookup_reverse_groupMembers (h : receipt.Distinct) (name : String) :
    receipt.groupMembers.reverse.lookup name = (receipt.groups.lookup name).map jsonOfGroup := by
  have hnames : (receipt.groupMembers.reverse.map Prod.fst).Nodup := by
    rw [List.map_reverse, List.nodup_reverse, names_groupMembers]
    exact h.names
  rw [Entries.lookup_of_perm hnames (List.reverse_perm _)]
  exact Entries.lookup_map_snd jsonOfGroup name receipt.groups

/-- Only a group holds values under labels, not the provider, even under a key that both have. -/
theorem Distinct.member?_member? (h : receipt.Distinct) (category label : String) :
    (receipt.toJson.member? category).bind (Json.member? label) =
      (receipt.value? category label).map .string := by
  rw [member?_toJson, h.lookup_reverse_groupMembers, value?]
  cases hgroup : receipt.groups.lookup category with
  | none => split <;> rfl
  | some values =>
    obtain ⟨front, back, hgroups, -⟩ := List.lookup_eq_some_iff.mp hgroup
    have hmem : (category, values) ∈ receipt.groups := by
      rw [hgroups]
      exact List.mem_append_right front List.mem_cons_self
    rw [Option.map_some, Option.some_or, Option.bind_some, Option.bind_some, h.jsonOfGroup_eq hmem]
    exact Entries.lookup_map_snd Json.string label values

end Receipt

/-- Whatever was done to the form of a provider before it was accepted, its receipt tells for any
two names what the form then held under them, and so does the object made of the receipt: there is a
value in one of them just if there is the same value in all. -/
theorem views_agree {policy : Schema.Policy} {text : String} {schema : Schema}
    (hread : Schema.ofText policy text = .ok schema) {name : String} {provider : Schema.Provider}
    (hprovider : schema.provider? name = some provider) (selected : String) (edits : List Edit)
    {gate : Gate} {now : Moment} {receipt : Receipt}
    (haccepted : (gate.submit (Edit.applyAll edits (provider.layOut selected).form) now).outcome =
      .accepted receipt) (category label : String) :
    let form := Edit.applyAll edits (provider.layOut selected).form
    receipt.value? category label = (form.field? category label).map (·.entry.value) ∧
    (receipt.toJson.member? category).bind (Json.member? label) =
      (receipt.value? category label).map .string := by
  intro form
  obtain ⟨-, hreceipt⟩ := Gate.submit_of_accepted form now haccepted
  have hpristine : form.pristine = (provider.layOut selected).form :=
    (Edit.pristine_applyAll edits).trans (provider.pristine_layOut selected)
  have hfollows : form.Follows provider := congrArg Form.groups hpristine
  have hdistinct : form.Distinct :=
    hfollows.distinct (Schema.distinct_of_ofText hread hprovider)
  rw [hreceipt]
  refine ⟨?_, ?_⟩
  · exact Receipt.value?_ofForm_checked form gate.selectorKey now category label
  · exact (Receipt.distinct_ofForm hdistinct gate.selectorKey now).member?_member? category label

/-- A provider with a category whose name is also the key of the selector. -/
def overlaid : Schema.Provider := ⟨[⟨"selectedProvider", [⟨"N", none, false, none⟩]⟩]⟩

def overlaidForm : Form :=
  Edit.applyAll [.fill "selectedProvider" "N" "1"] (overlaid.layOut "A").form

theorem views_agree_overlaid : ∃ receipt : Receipt, receipt.selectorKey = "selectedProvider" ∧
    (Gate.submit (.ofSettings {}) overlaidForm ⟨0, 0⟩).outcome = .accepted receipt ∧
    receipt.value? "selectedProvider" "N" = some "1" ∧
    (receipt.toJson.member? "selectedProvider").bind (Json.member? "N") = some (.string "1") ∧
    receipt.value? "selectedProvider" "A" = none ∧
    (receipt.toJson.member? "selectedProvider").bind (Json.member? "A") = none := by
  have hread : Schema.ofText .lenient
      "\x7b\"A\":\x7b\"selectedProvider\":[\x7b\"label\":\"N\"\x7d]\x7d\x7d" =
        .ok ⟨[("A", overlaid)]⟩ := by decide +kernel
  have hprovider : (Schema.mk [("A", overlaid)]).provider? "A" = some overlaid := rfl
  have haccepted : (Gate.submit (.ofSettings {}) overlaidForm ⟨0, 0⟩).outcome =
      .accepted ⟨"selectedProvider", "A", [("selectedProvider", [("N", "1")])], ⟨0, 0⟩⟩ := by
    decide +kernel
  have hagree := views_agree hread hprovider "A" [.fill "selectedProvider" "N" "1"] haccepted
    "selectedProvider"
  exact ⟨_, rfl, haccepted, (hagree "N").1, (hagree "N").2, (hagree "A").1, (hagree "A").2⟩

end Submission

end IdentityForms
