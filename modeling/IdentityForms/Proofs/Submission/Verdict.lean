import IdentityForms.Proofs.Form.Checked
import IdentityForms.Submission.Desk

/-! How a submission at a desk ends and what it leaves. -/
namespace IdentityForms

namespace Submission

theorem Receipt.groups_ofForm_checked (form : Form) (selectorKey : String)
    (now : Moment) : (ofForm (form.checked now) selectorKey now).groups =
      form.groups.map fun group =>
        (group.name, group.fields.map fun field => (field.label, field.entry.value)) := by
  unfold ofForm
  rw [Form.groups_checked, List.map_map]
  apply List.map_congr_left
  intro group _
  refine Prod.ext rfl ?_
  simp only [Function.comp_apply, Form.Group.mapFields, List.map_map]
  rfl

namespace Gate

variable {gate : Gate} (form : Form) (now : Moment)

theorem submit_of_invalid (hfree : ¬ gate.phase.isEngaged)
    (h : 0 < (form.checked now).invalidCount) :
    gate.submit form now = gate.begin.reject (form.checked now) := by
  unfold submit
  rw [if_neg hfree]
  exact if_pos h

theorem submit_of_valid (hfree : ¬ gate.phase.isEngaged)
    (h : ¬ 0 < (form.checked now).invalidCount) :
    gate.submit form now = gate.begin.accept (form.checked now) now := by
  unfold submit
  rw [if_neg hfree]
  exact if_neg h

variable (gate) in
/-- What a submission does, said once. -/
theorem submit_cases :
    (gate.phase.isEngaged ∧ gate.submit form now = ⟨.ignored, [], gate, form⟩) ∨
    (¬ gate.phase.isEngaged ∧ (form.checked now).invalidCount ≠ 0 ∧
      gate.submit form now = gate.begin.reject (form.checked now)) ∨
    (¬ gate.phase.isEngaged ∧ (form.checked now).invalidCount = 0 ∧
      gate.submit form now = gate.begin.accept (form.checked now) now) := by
  by_cases hbusy : gate.phase.isEngaged
  · exact .inl ⟨hbusy, submit_of_isEngaged hbusy form now⟩
  · by_cases h : 0 < (form.checked now).invalidCount
    · exact .inr (.inl ⟨hbusy, Nat.ne_of_gt h, submit_of_invalid form now hbusy h⟩)
    · exact .inr (.inr ⟨hbusy, Nat.eq_zero_of_not_pos h, submit_of_valid form now hbusy h⟩)

/-- A rejection tells where the fields are that are invalid now. -/
theorem submit_of_rejected {paths : List Form.Path}
    (h : (gate.submit form now).outcome = .rejected paths) :
    gate.submit form now = gate.begin.reject (form.checked now) ∧
      paths = (form.checked now).invalidPaths := by
  rcases gate.submit_cases form now with ⟨-, hsubmit⟩ | ⟨-, -, hsubmit⟩ | ⟨-, -, hsubmit⟩
  · rw [hsubmit] at h
    cases h
  · rw [hsubmit] at h
    cases h
    exact ⟨hsubmit, rfl⟩
  · rw [hsubmit] at h
    cases h

theorem submit_of_accepted {receipt : Receipt}
    (h : (gate.submit form now).outcome = .accepted receipt) :
    (form.checked now).invalidCount = 0 ∧
      receipt = .ofForm (form.checked now) gate.selectorKey now := by
  rcases gate.submit_cases form now with ⟨-, hsubmit⟩ | ⟨-, -, hsubmit⟩ | ⟨-, hvalid, hsubmit⟩
  · rw [hsubmit] at h
    cases h
  · rw [hsubmit] at h
    cases h
  · rw [hsubmit] at h
    cases h
    exact ⟨hvalid, rfl⟩

theorem form_submit : (gate.submit form now).after.2 =
    if gate.phase.isEngaged then form else form.checked now := by
  rcases gate.submit_cases form now with ⟨hbusy, h⟩ | ⟨hfree, -, h⟩ | ⟨hfree, -, h⟩
  · rw [h, if_pos hbusy]
  · rw [h, if_neg hfree]
    rfl
  · rw [h, if_neg hfree]
    rfl

theorem selectorKey_submit : (gate.submit form now).after.1.selectorKey = gate.selectorKey := by
  rcases gate.submit_cases form now with ⟨-, h⟩ | ⟨-, -, h⟩ | ⟨-, -, h⟩
  · rw [h]
  · rw [h]
    rfl
  · rw [h]
    rfl

end Gate

namespace Desk

variable (desk : Desk) (reaction : Reaction) (now : Moment)

theorem form_submit : (desk.submit reaction now).after.form =
    if desk.gate.phase.isEngaged then desk.form else desk.form.checked now := by
  have hform : (desk.submit reaction now).after.form =
      (desk.gate.submit desk.form now).after.2 := by
    unfold submit Lifecycle.submit gate
    obtain ⟨outcome, events, next, form⟩ := desk.lifecycle.gate.submit desk.form now
    cases outcome <;> rfl
  rw [hform, Gate.form_submit]

theorem selectorKey_submit : (desk.submit reaction now).after.gate.selectorKey =
    desk.gate.selectorKey := by
  have hgate : (desk.gate.submit desk.form now).after.1.selectorKey = desk.gate.selectorKey :=
    Gate.selectorKey_submit desk.form now
  rw [← hgate]
  unfold submit Lifecycle.submit gate
  obtain ⟨outcome, events, next, form⟩ := desk.lifecycle.gate.submit desk.form now
  cases outcome with
  | accepted receipt => cases reaction <;> rfl
  | _ => rfl

theorem submit_of_isEngaged (hbusy : desk.gate.phase.isEngaged) :
    desk.submit reaction now = ⟨.ignored, [], desk⟩ := by
  have hsubmit : desk.lifecycle.gate.submit desk.form now =
      ⟨.ignored, [], desk.lifecycle.gate, desk.form⟩ := Gate.submit_of_isEngaged hbusy desk.form now
  unfold submit Lifecycle.submit
  rw [hsubmit]

/-- The two ways in which a submission ends that is not ignored. A gate takes down a receipt only
if it accepts, and keeps the one it had if it rejects. -/
theorem submit_cases (hfree : ¬ desk.gate.phase.isEngaged) :
    let verdict := desk.submit reaction now
    let form := desk.form.checked now
    (form.invalidCount ≠ 0 ∧ verdict.outcome = .rejected form.invalidPaths ∧
      verdict.after.gate.receipt? = desk.gate.receipt?) ∨
    (form.invalidCount = 0 ∧ ∃ receipt, receipt = .ofForm form desk.gate.selectorKey now ∧
      verdict.outcome = .accepted receipt ∧ verdict.after.gate.receipt? = some receipt) := by
  unfold gate at hfree
  unfold submit Lifecycle.submit gate
  rcases Gate.submit_cases desk.lifecycle.gate desk.form now with
    ⟨hbusy, -⟩ | ⟨-, hinvalid, h⟩ | ⟨-, hvalid, h⟩
  · exact absurd hbusy hfree
  · rw [h]
    exact .inl ⟨hinvalid, rfl, rfl⟩
  · rw [h]
    refine .inr ⟨hvalid, _, rfl, rfl, ?_⟩
    cases reaction <;> rfl

end Desk

end Submission

end IdentityForms
