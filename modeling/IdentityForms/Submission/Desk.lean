import IdentityForms.Submission.Lifecycle

/-! A form on its way to submission, together with the gate that it goes through. -/
namespace IdentityForms.Submission

structure Desk where
  form : Form
  lifecycle : Lifecycle
  deriving DecidableEq

namespace Desk

def gate (desk : Desk) : Gate := desk.lifecycle.gate

def withForm (desk : Desk) (form : Form) : Desk := { desk with form }

def withLifecycle (desk : Desk) (lifecycle : Lifecycle) : Desk := { desk with lifecycle }

def submit (desk : Desk) (reaction : Reaction) (now : Moment) : Verdict Desk :=
  let ⟨outcome, events, lifecycle, form⟩ := desk.lifecycle.submit reaction desk.form now
  ⟨outcome, events, form, lifecycle⟩

end Desk

end IdentityForms.Submission
