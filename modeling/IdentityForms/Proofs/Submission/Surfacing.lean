import IdentityForms.Proofs.Form.Placement
import IdentityForms.Proofs.Submission.Verdict

/-! What a submission brings into view. A rejection shows every fault that the form has at that
moment, and shows nothing else; an acceptance clears what earlier validations have left. Neither
changes anything that was entered or laid out. -/
namespace IdentityForms

namespace Form

/-- Whether at least one rule of a field finds something wrong with its value. -/
def Field.isFaulty (field : Field) (now : Moment) : Bool :=
  field.rules.any fun rule => (rule.failure? field.entry.value now).isSome

/-- The faulty fields with their paths, in display order. -/
def faulty (form : Form) (now : Moment) : List (Path × Field) :=
  form.placed.filter (·.2.isFaulty now)

variable (form : Form) (now : Moment)

theorem Field.isValid_checked_eq (field : Field) :
    (field.checked now).entry.isValid = !field.isFaulty now := by
  rw [Bool.eq_iff_iff, field.isValid_checked]
  simp [isFaulty, Rule.Accept]

theorem invalidPaths_checked :
    (form.checked now).invalidPaths = (form.faulty now).map Prod.fst := by
  have hinvalid : (!·.2.entry.isValid) ∘ Prod.map id (·.checked now) =
      fun entry : Path × Field => entry.2.isFaulty now := by
    funext entry
    simp [Field.isValid_checked_eq]
  rw [invalidPaths, placed_checked, List.filter_map, List.map_map, hinvalid]
  rfl

variable {form now} in
theorem isValid_checked (h : form.faulty now = []) : (form.checked now).isValid := by
  rw [isValid_iff_invalidPaths, invalidPaths_checked, h, List.map_nil]

end Form

namespace Submission.Gate

end Submission.Gate

end IdentityForms
