import IdentityForms.Submission.Gate

/-! A gate with the completion handles that it has handed out. The surroundings may complete a
handle when they get it or later, or drop it, after which nothing completes. -/
namespace IdentityForms.Submission

/-- What the surroundings do with a completion handle when they get it. -/
inductive Reaction where
  | complete
  | hold
  | drop
  deriving DecidableEq

structure Lifecycle where
  gate : Gate
  /-- The handles that are neither completed nor dropped. -/
  held : Nat := 0
  deriving DecidableEq

namespace Lifecycle

def ofSettings (settings : Settings) : Lifecycle := { gate := .ofSettings settings }

/-- What becomes of a handle that has just been handed out. -/
def react (reaction : Reaction) (lifecycle : Lifecycle) : Lifecycle :=
  match reaction with
  | .complete => { lifecycle with gate := lifecycle.gate.complete }
  | .hold => { lifecycle with held := lifecycle.held + 1 }
  | .drop => lifecycle

def submit (lifecycle : Lifecycle) (reaction : Reaction) (form : Form) (now : Moment) :
    Verdict (Lifecycle × Form) :=
  let ⟨outcome, events, gate, form⟩ := lifecycle.gate.submit form now
  let next := { lifecycle with gate }
  { outcome
    events
    after := match outcome with
      | .accepted _ => (next.react reaction, form)
      | .ignored | .rejected _ => (next, form) }

def complete? (lifecycle : Lifecycle) : Option Lifecycle :=
  if lifecycle.held = 0 then none
  else some ⟨lifecycle.gate.complete, lifecycle.held - 1⟩

def drop? (lifecycle : Lifecycle) : Option Lifecycle :=
  if lifecycle.held = 0 then none
  else some ⟨lifecycle.gate, lifecycle.held - 1⟩

variable {lifecycle next : Lifecycle}

theorem complete?_eq_some : lifecycle.complete? = some next ↔
    lifecycle.held ≠ 0 ∧ ⟨lifecycle.gate.complete, lifecycle.held - 1⟩ = next := by
  unfold complete?
  split <;> simp [*]

theorem drop?_eq_some : lifecycle.drop? = some next ↔
    lifecycle.held ≠ 0 ∧ ⟨lifecycle.gate, lifecycle.held - 1⟩ = next := by
  unfold drop?
  split <;> simp [*]

end Lifecycle

end IdentityForms.Submission
