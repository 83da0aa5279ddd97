import IdentityForms.Search.Basic
import Mathlib.Logic.Relation

/-! The worker behind a search: a task that receives inputs and, after each, waits for whichever
comes first of a further input, the end of the inputs and the end of the pause. -/
namespace IdentityForms.Search

/-- Where the worker stands. Each input that it receives starts a pause of its own. -/
inductive Station where
  | receiving
  | pausing (text : String) (deadline : Nat)
  | ended
  deriving DecidableEq

structure Worker where
  names : List String
  pause : Nat
  now : Nat := 0
  /-- The inputs sent and not yet received, the oldest first. -/
  inbox : List String := []
  isOpen : Bool := true
  station : Station := .receiving
  evaluations : Nat := 0
  /-- The results that the worker's channel has held, the oldest first. -/
  channel : List Result
  deriving DecidableEq

namespace Worker

def spawn (names : List String) (pause : Nat) : Worker where
  names := names
  pause := pause
  channel := [⟨"", names, 0⟩]

def evaluate (worker : Worker) (text : String) : Worker :=
  { worker with
    evaluations := worker.evaluations + 1
    channel := worker.channel ++
      [⟨text, matchingNames worker.names text, worker.evaluations + 1⟩] }

def receive (worker : Worker) (text : String) (inbox : List String) : Worker :=
  { worker with inbox, station := .pausing text (worker.now + worker.pause) }

/-- What the worker can do of itself. If several things are ready, any may come first. -/
inductive Moves (worker : Worker) : Worker → Prop where
  | receive {text : String} {inbox : List String} (hstation : worker.station = .receiving)
      (hinbox : worker.inbox = text :: inbox) : Moves worker (worker.receive text inbox)
  | finish (hstation : worker.station = .receiving) (hinbox : worker.inbox = [])
      (hclosed : worker.isOpen = false) : Moves worker { worker with station := .ended }
  | replace {latest text : String} {deadline : Nat} {inbox : List String}
      (hstation : worker.station = .pausing latest deadline)
      (hinbox : worker.inbox = text :: inbox) : Moves worker (worker.receive text inbox)
  | expire {latest : String} {deadline : Nat} (hstation : worker.station = .pausing latest deadline)
      (hdue : deadline ≤ worker.now) :
      Moves worker { worker.evaluate latest with station := .receiving }
  | flush {latest : String} {deadline : Nat} (hstation : worker.station = .pausing latest deadline)
      (hinbox : worker.inbox = []) (hclosed : worker.isOpen = false) :
      Moves worker { worker.evaluate latest with station := .ended }

def Idle (worker : Worker) : Prop := ∀ next, ¬ worker.Moves next

/-- The worker runs until it is idle. -/
def Settles (worker last : Worker) : Prop := Relation.ReflTransGen Moves worker last ∧ last.Idle

def undergo (worker : Worker) : Step → Worker
  | .input text => if worker.isOpen then { worker with inbox := worker.inbox ++ [text] } else worker
  | .sleep time => { worker with now := worker.now + time }
  | .close => { worker with isOpen := false }

/-- A script that the worker undergoes, running until it is idle after every step. -/
inductive Runs : Worker → List Step → Worker → Prop where
  | nil (worker : Worker) : Runs worker [] worker
  | cons {worker next last : Worker} {step : Step} {script : List Step}
      (h : (worker.undergo step).Settles next) (rest : Runs next script last) :
      Runs worker (step :: script) last

variable {worker next last : Worker}

theorem settles_of_idle (h : worker.Idle) : worker.Settles last ↔ last = worker := by
  constructor
  · rintro ⟨hmoves, -⟩
    rcases hmoves.cases_head with rfl | ⟨next, hnext, -⟩
    · rfl
    · exact absurd hnext (h next)
  · rintro rfl
    exact ⟨.refl, h⟩

/-- Where only one thing is ready, the worker does that first. -/
theorem settles_of_only (hmove : worker.Moves next)
    (honly : ∀ other, worker.Moves other → other = next) :
    worker.Settles last ↔ next.Settles last := by
  constructor
  · rintro ⟨hmoves, hidle⟩
    rcases hmoves.cases_head with rfl | ⟨other, hother, hrest⟩
    · exact absurd hmove (hidle next)
    · exact ⟨honly other hother ▸ hrest, hidle⟩
  · rintro ⟨hmoves, hidle⟩
    exact ⟨.head hmove hmoves, hidle⟩

theorem idle_receiving (hstation : worker.station = .receiving) (hinbox : worker.inbox = [])
    (hopen : worker.isOpen) : worker.Idle := by
  intro next hmove
  cases hmove <;> simp_all

theorem idle_pausing {text : String} {deadline : Nat}
    (hstation : worker.station = .pausing text deadline) (hinbox : worker.inbox = [])
    (hopen : worker.isOpen) (hdue : worker.now < deadline) : worker.Idle := by
  intro next hmove
  cases hmove with
  | expire hother hpast =>
    cases hstation.symm.trans hother
    omega
  | _ => simp_all

theorem idle_ended (hstation : worker.station = .ended) : worker.Idle := by
  intro next hmove
  cases hmove <;> simp_all

theorem settles_expire {text : String} {deadline : Nat}
    (hstation : worker.station = .pausing text deadline) (hinbox : worker.inbox = [])
    (hopen : worker.isOpen) (hdue : deadline ≤ worker.now) : worker.Settles last ↔
      last = { worker.evaluate text with station := .receiving } := by
  rw [settles_of_only (.expire hstation hdue), settles_of_idle]
  · exact idle_receiving rfl hinbox hopen
  · intro other hmove
    cases hmove with
    | expire hother => cases hstation.symm.trans hother; rfl
    | _ => simp_all

theorem settles_receive (text : String) (hopen : worker.isOpen) :
    (worker.receive text []).Settles last ↔
      last = if worker.pause = 0 then { (worker.receive text []).evaluate text with
          station := .receiving } else worker.receive text [] := by
  split
  · next hpause => exact settles_expire rfl rfl hopen (by simp [receive, hpause])
  · next hpause =>
    refine settles_of_idle (idle_pausing rfl rfl hopen ?_)
    change worker.now < worker.now + worker.pause
    omega

/-- A further input takes the place of the one whose pause it cuts short. -/
theorem settles_input (text : String) (hinbox : worker.inbox = []) (hopen : worker.isOpen)
    (hstation : worker.station = .receiving ∨ ∃ latest deadline,
      worker.station = .pausing latest deadline ∧ worker.now < deadline) :
    (worker.undergo (.input text)).Settles last ↔ (worker.receive text []).Settles last := by
  have hsent : worker.undergo (.input text) = { worker with inbox := [text] } := by
    simp [undergo, hopen, hinbox]
  rw [hsent]
  rcases hstation with hstation | ⟨latest, deadline, hstation, hdue⟩
  · refine settles_of_only (.receive hstation rfl) fun other hmove => ?_
    cases hmove <;> simp_all [receive]
  · refine settles_of_only (.replace hstation rfl) fun other hmove => ?_
    cases hmove with
    | expire hother hpast =>
      cases hstation.symm.trans hother
      exact absurd hpast (Nat.not_le_of_lt hdue)
    | _ => simp_all [receive]

theorem settles_close_receiving (hinbox : worker.inbox = [])
    (hstation : worker.station = .receiving) : (worker.undergo .close).Settles last ↔
      last = { worker with isOpen := false, station := .ended } := by
  have hmove : (worker.undergo .close).Moves
      { worker with isOpen := false, station := .ended } := .finish hstation hinbox rfl
  rw [settles_of_only hmove, settles_of_idle (idle_ended rfl)]
  intro other hother
  cases hother <;> simp_all [undergo]

/-- The end of the inputs cuts a pause short, but the input is evaluated. -/
theorem settles_close_pausing {text : String} {deadline : Nat} (hinbox : worker.inbox = [])
    (hstation : worker.station = .pausing text deadline) (hdue : worker.now < deadline) :
    (worker.undergo .close).Settles last ↔
      last = { worker.evaluate text with isOpen := false, station := .ended } := by
  have hmove : (worker.undergo .close).Moves
      { worker.evaluate text with isOpen := false, station := .ended } :=
    .flush hstation hinbox rfl
  rw [settles_of_only hmove, settles_of_idle (idle_ended rfl)]
  intro other hother
  cases hother with
  | expire hpausing hpast =>
    cases hstation.symm.trans hpausing
    exact absurd hpast (Nat.not_le_of_lt hdue)
  | flush hpausing => cases hstation.symm.trans hpausing; rfl
  | _ => simp_all [undergo]

end Worker

end IdentityForms.Search
