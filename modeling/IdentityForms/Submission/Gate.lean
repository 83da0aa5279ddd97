import IdentityForms.Settings.Basic
import IdentityForms.Submission.Basic

/-! The gate through which forms are submitted. It lets a form pass only if every field is
valid; then it stays in transition until the surroundings report that theirs is complete, and
ignores all further submissions. -/
namespace IdentityForms.Submission

structure Gate where
  onRejection : Notice
  onAcceptance : Notice
  selectorKey : String
  phase : Phase := .idle
  receipt? : Option Receipt := none
  /-- The phases that the latest submission has entered by itself. -/
  trail : List Phase := []
  deriving DecidableEq

namespace Gate

def ofSettings (settings : Settings) : Gate where
  onRejection := settings.onRejection
  onAcceptance := settings.onAcceptance
  selectorKey := settings.selectorKey

def enter (gate : Gate) (phase : Phase) : Gate :=
  { gate with phase, trail := gate.trail ++ [phase] }

def begin (gate : Gate) : Gate := { gate with trail := [] }.enter .validating

def tell (gate : Gate) (tone : Tone) (notice : Notice) : Event :=
  .notice tone notice.message notice.millis gate.phase

def reject (gate : Gate) (form : Form) : Verdict (Gate × Form) :=
  let rejecting := gate.enter .rejected
  { outcome := .rejected form.invalidPaths
    events := [
      rejecting.tell .error rejecting.onRejection,
      .validationFailed rejecting.phase]
    after := (rejecting.enter .idle, form) }

/-- Takes down the values of a valid form and hands out a completion handle. -/
def accept (gate : Gate) (form : Form) (now : Moment) : Verdict (Gate × Form) :=
  let receipt := Receipt.ofForm form gate.selectorKey now
  let accepting := { gate.enter .accepted with receipt? := some receipt }
  let transitioning := accepting.enter .transitioning
  { outcome := .accepted receipt
    events := [
      accepting.tell .success accepting.onAcceptance,
      .accepted transitioning.phase]
    after := (transitioning, form) }

/-- Touches and validates every field, and accepts the form if none is invalid. -/
def submit (gate : Gate) (form : Form) (now : Moment) : Verdict (Gate × Form) :=
  if gate.phase.isEngaged then ⟨.ignored, [], gate, form⟩
  else
    let form := form.touchAll.validate now
    if 0 < form.invalidCount then gate.begin.reject form else gate.begin.accept form now

def complete (gate : Gate) : Gate := { gate with phase := .submitted }

def isDone (gate : Gate) : Bool := gate.phase = .submitted

@[simp] theorem phase_enter (gate : Gate) (phase : Phase) : (gate.enter phase).phase = phase := rfl

@[simp] theorem trail_enter (gate : Gate) (phase : Phase) :
    (gate.enter phase).trail = gate.trail ++ [phase] := rfl

@[simp] theorem trail_begin (gate : Gate) : gate.begin.trail = [.validating] := rfl

theorem submit_of_isEngaged {gate : Gate} (h : gate.phase.isEngaged) (form : Form) (now : Moment) :
    gate.submit form now = ⟨.ignored, [], gate, form⟩ := by
  simp [submit, h]

end Gate

end IdentityForms.Submission
