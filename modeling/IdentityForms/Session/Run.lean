import IdentityForms.Session.Basic

/-! What can be done to a session, as data, and what it answers. Operations that read the
clock carry the reading. Each gives its answer or problem, and the session that it leaves. -/
namespace IdentityForms

namespace Session

inductive Op where
  | load (schema : Schema)
  | loadText (text : String)
  | select (name : String)
  | fill (category label value : String)
  | touch (category label : String)
  | validate (category label : String) (now : Moment)
  | submit (reaction : Submission.Reaction) (now : Moment)
  | complete
  | drop
  deriving DecidableEq

/-- What an operation answers: nothing, the problems of a schema, the failures of a field, how
a submission ended, or whether a completion handle was held. -/
inductive Answer where
  | done
  | problems (problems : List Problem)
  | failures (failures : Failures)
  | outcome (outcome : Submission.Outcome)
  | handle (wasHeld : Bool)
  deriving DecidableEq

/-- An answer or problem, what the surroundings were told, and the session afterwards. -/
structure Step where
  answer : Except Problem Answer
  events : List Submission.Event
  after : Session

def load (session : Session) (schema : Schema) : Except Problem Answer × Session :=
  match session.slot.fill schema with
  | .ok slot => (.ok .done, { session with slot })
  | .error problem => (.error problem, session)

/-- Loads a schema document. A bad document is the problem even if a schema is loaded. -/
def loadText (session : Session) (text : String) : Except Problem Answer × Session :=
  match Schema.ofText session.settings.policy text with
  | .ok schema => session.load schema
  | .error problem => (.error problem, session)

def select (session : Session) (name : String) : Except Problem Answer × Session :=
  match session.layOut name with
  | .ok layout => (.ok (.problems layout.problems), session.withForm layout.form)
  | .error problem => (.error problem, session)

/-- Puts the form that an operation on a field makes in the place of the old one. -/
def update (session : Session) (result : Except Problem Form) (answer : Form → Answer) :
    Except Problem Answer × Session :=
  match result with
  | .ok form => (.ok (answer form), session.withForm form)
  | .error problem => (.error problem, session)

def failuresAt (form : Form) (category label : String) : Failures :=
  (form.field? category label).elim ∅ (·.entry.failures)

/-- An operation on the completion handle, if one is held. -/
def handle (session : Session) (lifecycle? : Option Submission.Lifecycle) :
    Except Problem Answer × Session :=
  match lifecycle? with
  | some lifecycle => (.ok (.handle true), session.withLifecycle lifecycle)
  | none => (.ok (.handle false), session)

/-- The step of an operation that tells the surroundings nothing. -/
def Step.quiet (result : Except Problem Answer × Session) : Step := ⟨result.1, [], result.2⟩

def step (session : Session) : Op → Step
  | .load schema => .quiet (session.load schema)
  | .loadText text => .quiet (session.loadText text)
  | .select name => .quiet (session.select name)
  | .fill category label value =>
    .quiet (session.update (session.form.fill category label value) fun _ => .done)
  | .touch category label =>
    .quiet (session.update (session.form.touch category label) fun _ => .done)
  | .validate category label now =>
    .quiet (session.update (session.form.validateField category label now) fun form =>
      .failures (failuresAt form category label))
  | .submit reaction now =>
    let verdict := session.desk.submit reaction now
    ⟨.ok (.outcome verdict.outcome), verdict.events, { session with desk := verdict.after }⟩
  | .complete => .quiet (session.handle session.desk.lifecycle.complete?)
  | .drop => .quiet (session.handle session.desk.lifecycle.drop?)

/-- The steps of a run, and the session at its end. -/
def run (session : Session) : List Op → List Step × Session
  | [] => ([], session)
  | op :: ops =>
    let step := session.step op
    let (steps, last) := step.after.run ops
    (step :: steps, last)

end Session

end IdentityForms
