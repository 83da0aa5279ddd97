import IdentityForms.Proofs.Form.Invalid
import IdentityForms.Proofs.Submission.Verdict

/-! Recovery from a rejection. The paths of a rejection lead to the invalid fields and to no others;
once these have values that their rules accept, the form is accepted with these values. -/
namespace IdentityForms

namespace Submission

/-- What can be done to a form once it is laid out. The gates of earlier submissions may be in any
phase. -/
inductive Edit where
  | fill (category label value : String)
  | touch (category label : String)
  | touchAll
  | validateField (category label : String) (now : Moment)
  | validate (now : Moment)
  | submit (gate : Gate) (now : Moment)
  deriving DecidableEq

/-- The form after an edit. One that fails leaves the form as it was. -/
def Edit.apply (form : Form) : Edit → Form
  | fill category label value => (form.fill category label value).toOption.getD form
  | touch category label => (form.touch category label).toOption.getD form
  | touchAll => form.touchAll
  | validateField category label now =>
    (form.validateField category label now).toOption.getD form
  | validate now => form.validate now
  | submit gate now => (gate.submit form now).after.2

def Edit.applyAll (edits : List Edit) (form : Form) : Form := edits.foldl apply form

namespace Edit

variable {form : Form}

theorem pristine_getD {result : Except Problem Form}
    (h : ∀ changed, result = .ok changed → changed.pristine = form.pristine) :
    (result.toOption.getD form).pristine = form.pristine := by
  cases result with
  | error problem => rfl
  | ok changed => exact h changed rfl

theorem pristine_apply (edit : Edit) : (edit.apply form).pristine = form.pristine := by
  cases edit with
  | fill category label value =>
    exact pristine_getD fun _ => Form.pristine_modifyField (Form.Field.cleared_fill · value)
  | touch category label =>
    exact pristine_getD fun _ => Form.pristine_modifyField Form.Field.cleared_touch
  | touchAll => exact form.pristine_touchAll
  | validateField category label now =>
    exact pristine_getD fun _ => Form.pristine_modifyField (Form.Field.cleared_validate · now)
  | validate now => exact form.pristine_validate now
  | submit gate now =>
    change (gate.submit form now).after.2.pristine = form.pristine
    rw [Gate.form_submit]
    split
    · rfl
    · exact form.pristine_checked now

theorem pristine_applyAll (edits : List Edit) : (applyAll edits form).pristine = form.pristine := by
  induction edits generalizing form with
  | nil => rfl
  | cons edit edits ih => exact ih.trans (pristine_apply edit)

end Edit

end Submission

namespace Form

variable {form : Form} {now : Moment} {value : Spot → String} {spots : List Spot}

/-- Filled at the spots of the invalid fields with values that the rules of these accept, a checked
form has no invalid field left. -/
theorem invalidCount_filled (h : (form.checked now).Distinct)
    (hselector : Rule.Accept form.selector.rules form.selector.entry.value now)
    (hspots : ∀ spot, spot ∈ spots ↔ spot ∈ (form.checked now).invalidSpots)
    (hvalue : ∀ spot ∈ spots, ∀ field, (form.checked now).field? spot.1 spot.2 = some field →
      Rule.Accept field.rules (value spot) now) :
    (((form.checked now).adjust (fillingAt value spots)).checked now).invalidCount = 0 := by
  rw [invalidCount_checked, forall_mem_fields]
  refine ⟨hselector, ?_⟩
  intro changed hchanged
  obtain ⟨group, hgroup, rfl⟩ := List.mem_map.mp hchanged
  intro filled hfilled
  obtain ⟨field, hfield, rfl⟩ := List.mem_map.mp hfilled
  unfold fillingAt
  split
  · next hspot => exact hvalue _ hspot field (h.field?_of_mem hgroup hfield)
  · next hspot =>
    rw [hspots, h.mem_invalidSpots hgroup hfield, not_not] at hspot
    exact (isValid_of_mem_checked (mem_fields hgroup hfield)).mp hspot

theorem groups_ofForm_filled (selectorKey : String) :
    (Submission.Receipt.ofForm (((form.checked now).adjust (fillingAt value spots)).checked now)
      selectorKey now).groups = form.groups.map fun group =>
        (group.name, group.fields.map fun field => (field.label,
          if (group.name, field.label) ∈ spots then value (group.name, field.label)
          else field.entry.value)) := by
  rw [Submission.Receipt.groups_ofForm_checked]
  unfold adjust
  rw [groups_checked, List.map_map, List.map_map]
  apply List.map_congr_left
  intro group _
  simp only [Function.comp_apply, Group.mapFields, List.map_map, Prod.mk.injEq, true_and]
  apply List.map_congr_left
  intro field _
  exact Prod.ext (label_fillingAt value spots group.name (field.checked now))
    (value_fillingAt value spots group.name (field.checked now))

end Form

namespace Submission

/-- Whatever was done to the form of a provider, a rejection names the invalid fields by paths that
lead to them. Once these have values that their rules accept, filled in any order, the next
submission is accepted, with these values and all others as they were. -/
theorem rejection_recoverable {policy : Schema.Policy} {text : String} {schema : Schema}
    (hread : Schema.ofText policy text = .ok schema) {name : String} (hname : name ≠ "")
    {provider : Schema.Provider} (hprovider : schema.provider? name = some provider)
    (edits : List Edit) {gate : Gate} {now : Moment} {paths : List Form.Path}
    (hrejected : (gate.submit (Edit.applyAll edits (provider.layOut name).form) now).outcome =
      .rejected paths) :
    let form := Edit.applyAll edits (provider.layOut name).form
    let left := (gate.submit form now).after
    ∃ spots : List Form.Spot, paths = spots.map Form.Spot.path ∧ paths.Nodup ∧
      (spots.map fun spot => left.2.field? spot.1 spot.2) = (left.2.fields.filter fun field =>
        !(Rule.failures field.rules field.entry.value now).isEmpty).map some ∧
      ∀ (value : Form.Spot → String) (order : List Form.Spot), order.Perm spots →
        (∀ spot ∈ spots, ∀ field, left.2.field? spot.1 spot.2 = some field →
          Rule.Accept field.rules (value spot) now) →
        ∃ corrected receipt, left.2.fillAll value order = .ok corrected ∧
          (left.1.submit corrected now).outcome = .accepted receipt ∧ receipt.provider = name ∧
          receipt.groups = form.groups.map fun group => (group.name, group.fields.map fun field =>
            (field.label, if (group.name, field.label) ∈ spots then value (group.name, field.label)
              else field.entry.value)) := by
  intro form left
  have hpristine : form.pristine = (provider.layOut name).form :=
    (Edit.pristine_applyAll edits).trans (provider.pristine_layOut name)
  have hvalue : form.selector.entry.value = name := congrArg (·.selector.entry.value) hpristine
  have hrules : form.selector.rules = [.required] := congrArg (·.selector.rules) hpristine
  have hselector : Rule.Accept form.selector.rules form.selector.entry.value now := by
    rw [hrules, hvalue, Rule.accept_required]
    exact hname
  have hvalid : (form.checked now).selector.entry.isValid :=
    (form.selector.isValid_checked now).mpr hselector
  have hfollows : (form.checked now).Follows provider :=
    congrArg Form.groups ((form.pristine_checked now).trans hpristine)
  have hdistinct : (form.checked now).Distinct :=
    hfollows.distinct (Schema.distinct_of_ofText hread hprovider)
  obtain ⟨hsubmit, hpaths⟩ := Gate.submit_of_rejected form now hrejected
  have hleft : left = (gate.begin.reject (form.checked now)).after := congrArg (·.after) hsubmit
  have hgate : ¬ left.1.phase.isEngaged := by
    rw [show left.1.phase = .idle from congrArg (·.1.phase) hleft]
    decide
  have hform : left.2 = form.checked now := congrArg Prod.snd hleft
  rw [hform]
  refine ⟨(form.checked now).invalidSpots, ?paths, ?nodup, ?fields, ?recovery⟩
  case paths => exact hpaths.trans (Form.invalidPaths_of_selector hvalid)
  case nodup =>
    rw [hpaths, Form.invalidPaths_of_selector hvalid]
    exact hdistinct.nodup_invalidSpots.map Form.Spot.path_injective
  case fields =>
    rw [hdistinct.map_field?_invalidSpots, ← Form.filter_fields_of_selector hvalid]
    congr 1
    apply List.filter_congr
    intro field hfield
    rw [Bool.not_inj_iff, Bool.eq_iff_iff, Form.isValid_of_mem_checked hfield,
      Rule.isEmpty_failures]
  case recovery =>
    intro value order hperm haccept
    -- The order plays no part: only which spots are filled enters into the form that is corrected.
    have hmem (spot : Form.Spot) : spot ∈ order ↔ spot ∈ (form.checked now).invalidSpots :=
      hperm.mem_iff
    have hcount := Form.invalidCount_filled hdistinct hselector hmem fun spot hspot =>
      haccept spot ((hmem spot).mp hspot)
    have haccepted := Gate.submit_of_valid _ now hgate (Nat.not_lt.mpr (Nat.le_of_eq hcount))
    refine ⟨_, _, hdistinct.fillAll value ?found, congrArg (·.outcome) haccepted, hvalue, ?groups⟩
    case found =>
      exact fun spot hspot => hdistinct.isSome_field?_of_mem ((hmem spot).mp hspot)
    case groups =>
      rw [Form.groups_ofForm_filled]
      simp only [hmem]

/-- A form with one field, which must not be left empty. -/
def nameForm : Form :=
  (Schema.Provider.layOut ⟨[⟨"P", [⟨"N", none, true, none⟩]⟩]⟩ "A").form

def emptied : Form := Edit.applyAll [.fill "P" "N" "Ann", .fill "P" "N" ""] nameForm

theorem recovery_emptied :
    (Gate.submit (.ofSettings {}) emptied ⟨0, 0⟩).outcome = .rejected [⟨some "P", "N"⟩] ∧
    let left := (Gate.submit (.ofSettings {}) emptied ⟨0, 0⟩).after
    ∃ corrected receipt, left.2.fillAll (fun _ => "Ben") [("P", "N")] = .ok corrected ∧
      (left.1.submit corrected ⟨0, 0⟩).outcome = .accepted receipt ∧
      receipt.groups = [("P", [("N", "Ben")])] := by
  have hread : Schema.ofText .lenient
      "\x7b\"A\":\x7b\"P\":[\x7b\"label\":\"N\",\"required\":true\x7d]\x7d\x7d" =
        .ok ⟨[("A", ⟨[⟨"P", [⟨"N", none, true, none⟩]⟩]⟩)]⟩ := by decide +kernel
  have hrejected : (Gate.submit (.ofSettings {}) emptied ⟨0, 0⟩).outcome =
      .rejected [⟨some "P", "N"⟩] := by decide +kernel
  obtain ⟨spots, hpaths, -, -, hrecovery⟩ := rejection_recoverable hread (by decide) rfl
    [.fill "P" "N" "Ann", .fill "P" "N" ""] hrejected
  have hspots : spots = [("P", "N")] :=
    List.map_injective_iff.mpr Form.Spot.path_injective hpaths.symm
  subst hspots
  have hfound : (Gate.submit (.ofSettings {}) emptied ⟨0, 0⟩).after.2.field? "P" "N" =
      some ⟨"N", none, [.required], ⟨"", true, .ofList [.missing]⟩⟩ := by decide +kernel
  obtain ⟨corrected, receipt, hfilled, haccepted, -, hgroups⟩ :=
    hrecovery (fun _ => "Ben") [("P", "N")] (.refl _) (by
      intro spot hspot field hfield
      cases List.mem_singleton.mp hspot
      cases hfound.symm.trans hfield
      exact Rule.accept_required.mpr (by decide))
  exact ⟨hrejected, corrected, receipt, hfilled, haccepted, hgroups⟩

end Submission

end IdentityForms
