import IdentityForms.Submission.Lifecycle

/-! Runs of a lifecycle. What the surroundings do to a handle at the moment they get it is a move
of its own, made right after the submission that hands the handle out. -/
namespace IdentityForms.Submission

inductive Act where
  | submit (reaction : Reaction) (form : Form) (now : Moment)
  | complete
  | drop
  deriving DecidableEq

/-- What happens at a gate: a submission, with its outcome and what it told the surroundings, or
the end of a handle. -/
inductive Move where
  | submission (outcome : Outcome) (events : List Event)
  | completion
  | dropping
  deriving DecidableEq

structure Turn where
  before : Lifecycle
  move : Move
  after : Lifecycle
  deriving DecidableEq

namespace Lifecycle

/-- The turn in which a form is submitted. A handle that it hands out is held after it. -/
def submitting (lifecycle : Lifecycle) (form : Form) (now : Moment) : Turn :=
  let verdict := lifecycle.submit .hold form now
  ⟨lifecycle, .submission verdict.outcome verdict.events, verdict.after.1⟩

def completing (lifecycle : Lifecycle) : List Turn :=
  lifecycle.complete?.toList.map fun after => ⟨lifecycle, .completion, after⟩

def dropping (lifecycle : Lifecycle) : List Turn :=
  lifecycle.drop?.toList.map fun after => ⟨lifecycle, .dropping, after⟩

def reacting (lifecycle : Lifecycle) : Reaction → List Turn
  | .complete => lifecycle.completing
  | .hold => []
  | .drop => lifecycle.dropping

def turns (lifecycle : Lifecycle) : Act → List Turn
  | .submit reaction form now =>
    let turn := lifecycle.submitting form now
    turn :: match (lifecycle.gate.submit form now).outcome with
      | .accepted _ => turn.after.reacting reaction
      | .ignored | .rejected _ => []
  | .complete => lifecycle.completing
  | .drop => lifecycle.dropping

def perform (lifecycle : Lifecycle) : Act → Lifecycle
  | .submit reaction form now => (lifecycle.submit reaction form now).after.1
  | .complete => lifecycle.complete?.getD lifecycle
  | .drop => lifecycle.drop?.getD lifecycle

def after (lifecycle : Lifecycle) (acts : List Act) : Lifecycle := acts.foldl perform lifecycle

def log (lifecycle : Lifecycle) : List Act → List Turn
  | [] => []
  | act :: acts => lifecycle.turns act ++ (lifecycle.perform act).log acts

inductive Makes : Lifecycle → Move → Lifecycle → Prop where
  | ignored (gate : Gate) (held : Nat) (h : gate.phase.isEngaged) :
      Makes ⟨gate, held⟩ (.submission .ignored []) ⟨gate, held⟩
  | rejected (gate : Gate) (held : Nat) (form : Form) (h : ¬ gate.phase.isEngaged) :
      Makes ⟨gate, held⟩
        (.submission (gate.begin.reject form).outcome (gate.begin.reject form).events)
        ⟨(gate.begin.reject form).after.1, held⟩
  | accepted (gate : Gate) (held : Nat) (form : Form) (now : Moment)
      (h : ¬ gate.phase.isEngaged) :
      Makes ⟨gate, held⟩
        (.submission (gate.begin.accept form now).outcome (gate.begin.accept form now).events)
        ⟨(gate.begin.accept form now).after.1, held + 1⟩
  | completion (gate : Gate) (held : Nat) :
      Makes ⟨gate, held + 1⟩ .completion ⟨gate.complete, held⟩
  | dropping (gate : Gate) (held : Nat) : Makes ⟨gate, held + 1⟩ .dropping ⟨gate, held⟩

/-- Turns that follow one another. -/
inductive Path : Lifecycle → List Turn → Lifecycle → Prop where
  | nil (lifecycle : Lifecycle) : Path lifecycle [] lifecycle
  | cons {first second last : Lifecycle} {move : Move} {turns : List Turn}
      (h : Makes first move second) (path : Path second turns last) :
      Path first (⟨first, move, second⟩ :: turns) last

theorem Path.append {first second last : Lifecycle} {front back : List Turn}
    (hfront : Path first front second) (hback : Path second back last) :
    Path first (front ++ back) last := by
  induction hfront with
  | nil => exact hback
  | cons h _ ih => exact .cons h (ih hback)

/-- A path of turns in a row is one path after another. -/
theorem Path.split {first last : Lifecycle} {front back : List Turn}
    (path : Path first (front ++ back) last) :
    ∃ middle, Path first front middle ∧ Path middle back last := by
  induction front generalizing first with
  | nil => exact ⟨first, .nil first, path⟩
  | cons turn front ih =>
    cases path with
    | cons h path =>
      obtain ⟨middle, hfront, hback⟩ := ih path
      exact ⟨middle, .cons h hfront, hback⟩

section

variable {kept : Lifecycle → Prop}
  (hkept : ∀ {before move after}, kept before → Makes before move after → kept after)

include hkept

/-- What every move keeps is kept along a path. -/
theorem Path.keeps {first last : Lifecycle} {turns : List Turn} (path : Path first turns last)
    (h : kept first) : kept last := by
  induction path with
  | nil => exact h
  | cons hmove _ ih => exact ih (hkept h hmove)

theorem Path.forall_of_kept {motive : Turn → Prop} {first last : Lifecycle} {turns : List Turn}
    (path : Path first turns last) (h : kept first) (hmotive : ∀ {before move after},
      kept before → Makes before move after → motive ⟨before, move, after⟩) :
    ∀ turn ∈ turns, motive turn := by
  induction path with
  | nil => simp
  | cons hmove _ ih =>
    rw [List.forall_mem_cons]
    exact ⟨hmotive h hmove, ih (hkept h hmove)⟩

end

theorem makes_submitting (lifecycle : Lifecycle) (form : Form) (now : Moment) :
    Makes lifecycle (lifecycle.submitting form now).move
      (lifecycle.submitting form now).after := by
  obtain ⟨gate, held⟩ := lifecycle
  unfold submitting submit Gate.submit
  by_cases hbusy : gate.phase.isEngaged
  · simp only [hbusy, if_true]
    exact .ignored gate held hbusy
  · simp only [hbusy, Bool.false_eq_true, if_false]
    split
    · exact .rejected gate held _ hbusy
    · exact .accepted gate held _ now hbusy

theorem path_completing (lifecycle : Lifecycle) :
    Path lifecycle lifecycle.completing (lifecycle.complete?.getD lifecycle) := by
  obtain ⟨gate, held⟩ := lifecycle
  cases held with
  | zero => exact .nil _
  | succ held => exact .cons (.completion gate held) (.nil _)

theorem path_dropping (lifecycle : Lifecycle) :
    Path lifecycle lifecycle.dropping (lifecycle.drop?.getD lifecycle) := by
  obtain ⟨gate, held⟩ := lifecycle
  cases held with
  | zero => exact .nil _
  | succ held => exact .cons (.dropping gate held) (.nil _)

/-- Completing or dropping a handle on the spot is holding it for no time. -/
theorem path_reacting (lifecycle : Lifecycle) (reaction : Reaction) :
    Path (lifecycle.react .hold) ((lifecycle.react .hold).reacting reaction)
      (lifecycle.react reaction) := by
  cases reaction with
  | complete => exact path_completing (lifecycle.react .hold)
  | hold => exact .nil _
  | drop => exact path_dropping (lifecycle.react .hold)

theorem path_turns (lifecycle : Lifecycle) (act : Act) :
    Path lifecycle (lifecycle.turns act) (lifecycle.perform act) := by
  cases act with
  | complete => exact path_completing lifecycle
  | drop => exact path_dropping lifecycle
  | submit reaction form now =>
    apply Path.cons (makes_submitting lifecycle form now)
    simp only [submitting, perform, submit]
    cases (lifecycle.gate.submit form now).outcome with
    | ignored => exact .nil _
    | rejected => exact .nil _
    | accepted receipt => exact path_reacting _ reaction

theorem path_log (lifecycle : Lifecycle) (acts : List Act) :
    Path lifecycle (lifecycle.log acts) (lifecycle.after acts) := by
  induction acts generalizing lifecycle with
  | nil => exact .nil lifecycle
  | cons act acts ih => exact (path_turns lifecycle act).append (ih (lifecycle.perform act))

end Lifecycle

end IdentityForms.Submission
