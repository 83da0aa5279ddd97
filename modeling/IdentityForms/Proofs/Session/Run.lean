import IdentityForms.Proofs.Submission.Run
import IdentityForms.Session.Run

/-! What an operation can do to a session, said once, and the sessions that runs lead to. -/
namespace IdentityForms

namespace Session

def Op.offered? (policy : Schema.Policy) : Op → Option Schema
  | .load schema => some schema
  | .loadText text => (Schema.ofText policy text).toOption
  | _ => none

/-- The effects that operations have: the answer of an operation and the session after it. -/
inductive Effect (session : Session) : Op → Except Problem Answer → Session → Prop where
  | refused (op : Op) (problem : Problem) : Effect session op (.error problem) session
  | loaded (op : Op) (schema : Schema) (hoffer : op.offered? session.settings.policy = some schema)
      (hempty : session.slot.schema? = none) :
      Effect session op (.ok .done) { session with slot := ⟨some schema⟩ }
  | selected (name : String) (layout : Layout) (h : session.layOut name = .ok layout) :
      Effect session (.select name) (.ok (.problems layout.problems))
        (session.withForm layout.form)
  | filled (category label value : String) (form : Form)
      (h : session.form.fill category label value = .ok form) :
      Effect session (.fill category label value) (.ok .done) (session.withForm form)
  | touched (category label : String) (form : Form)
      (h : session.form.touch category label = .ok form) :
      Effect session (.touch category label) (.ok .done) (session.withForm form)
  | validated (category label : String) (now : Moment) (form : Form)
      (h : session.form.validateField category label now = .ok form) :
      Effect session (.validate category label now)
        (.ok (.failures (failuresAt form category label))) (session.withForm form)
  | submitted (reaction : Submission.Reaction) (now : Moment) :
      Effect session (.submit reaction now)
        (.ok (.outcome (session.desk.submit reaction now).outcome))
        { session with desk := (session.desk.submit reaction now).after }
  | completed (lifecycle : Submission.Lifecycle)
      (h : session.desk.lifecycle.complete? = some lifecycle) :
      Effect session .complete (.ok (.handle true)) (session.withLifecycle lifecycle)
  | dropped (lifecycle : Submission.Lifecycle)
      (h : session.desk.lifecycle.drop? = some lifecycle) :
      Effect session .drop (.ok (.handle true)) (session.withLifecycle lifecycle)
  | uncompleted (h : session.desk.lifecycle.complete? = none) :
      Effect session .complete (.ok (.handle false)) session
  | undropped (h : session.desk.lifecycle.drop? = none) :
      Effect session .drop (.ok (.handle false)) session

variable {session : Session} {op : Op}

theorem effect_load (schema : Schema)
    (hoffer : op.offered? session.settings.policy = some schema) :
    Effect session op (session.load schema).1 (session.load schema).2 := by
  unfold load Schema.Slot.fill
  cases hempty : session.slot.schema? with
  | none => exact .loaded op schema hoffer hempty
  | some held => exact .refused op .alreadyLoaded

theorem effect_update {result : Except Problem Form} {answer : Form → Answer}
    (h : ∀ form, result = .ok form → Effect session op (.ok (answer form)) (session.withForm form)) :
    Effect session op (session.update result answer).1 (session.update result answer).2 := by
  cases result with
  | error problem => exact .refused op problem
  | ok form => exact h form rfl

theorem effect_step (session : Session) (op : Op) :
    Effect session op (session.step op).answer (session.step op).after := by
  cases op with
  | load schema => exact effect_load schema rfl
  | loadText text =>
    change Effect session _ (session.loadText text).1 (session.loadText text).2
    unfold loadText
    cases hread : Schema.ofText session.settings.policy text with
    | error problem => exact .refused (.loadText text) problem
    | ok schema => exact effect_load schema (by simp [Op.offered?, hread, Except.toOption])
  | select name =>
    change Effect session _ (session.select name).1 (session.select name).2
    unfold select
    cases hlayout : session.layOut name with
    | error problem => exact .refused (.select name) problem
    | ok layout => exact .selected name layout hlayout
  | fill category label value => exact effect_update (.filled category label value)
  | touch category label => exact effect_update (.touched category label)
  | validate category label now => exact effect_update (.validated category label now)
  | submit reaction now => exact .submitted reaction now
  | complete =>
    unfold step handle
    cases h : session.desk.lifecycle.complete? with
    | none => exact .uncompleted h
    | some lifecycle => exact .completed lifecycle h
  | drop =>
    unfold step handle
    cases h : session.desk.lifecycle.drop? with
    | none => exact .undropped h
    | some lifecycle => exact .dropped lifecycle h

theorem Effect.unchanged {problem : Problem} {next : Session}
    (h : Effect session op (.error problem) next) : next = session := by
  cases h
  rfl

/-- An operation that fails leaves the session as it was. -/
theorem after_of_error {problem : Problem} (h : (session.step op).answer = .error problem) :
    (session.step op).after = session := by
  have heffect := effect_step session op
  rw [h] at heffect
  exact heffect.unchanged

def after (session : Session) (ops : List Op) : Session := (session.run ops).2

@[simp] theorem after_nil (session : Session) : session.after [] = session := rfl

@[simp] theorem after_cons (session : Session) (op : Op) (ops : List Op) :
    session.after (op :: ops) = (session.step op).after.after ops := rfl

/-- What a session has and every effect keeps holds after every run. -/
theorem after_induction {motive : Session → Prop} (ops : List Op) (hstart : motive session)
    (hstep : ∀ {session : Session} {op : Op} {answer : Except Problem Answer} {next : Session},
      motive session → Effect session op answer next → motive next) :
    motive (session.after ops) := by
  induction ops generalizing session with
  | nil => exact hstart
  | cons op ops ih => exact ih (hstep hstart (effect_step session op))

end Session

end IdentityForms
