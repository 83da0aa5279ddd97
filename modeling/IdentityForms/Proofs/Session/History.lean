import IdentityForms.Proofs.Session.Run
import Mathlib.Data.List.Induction

/-! Histories: what was done to a session in a run, with what each operation found and answered. -/
namespace IdentityForms.Session

/-- An operation, the session that it found, and its answer. -/
structure Deed where
  before : Session
  op : Op
  answer : Except Problem Answer

def history (session : Session) : List Op → List Deed
  | [] => []
  | op :: ops => ⟨session, op, (session.step op).answer⟩ :: (session.step op).after.history ops

variable {session : Session}

theorem after_append (session : Session) (front back : List Op) :
    session.after (front ++ back) = (session.after front).after back := by
  induction front generalizing session with
  | nil => rfl
  | cons op front ih => exact ih (session.step op).after

theorem history_append (session : Session) (front back : List Op) :
    session.history (front ++ back) =
      session.history front ++ (session.after front).history back := by
  induction front generalizing session with
  | nil => rfl
  | cons op front ih => exact congrArg (_ :: ·) (ih (session.step op).after)

theorem map_op_history (session : Session) (ops : List Op) :
    (session.history ops).map Deed.op = ops := by
  induction ops generalizing session with
  | nil => rfl
  | cons op ops ih => exact congrArg (op :: ·) (ih (session.step op).after)

theorem map_answer_history (session : Session) (ops : List Op) :
    (session.history ops).map Deed.answer = (session.run ops).1.map Step.answer := by
  induction ops generalizing session with
  | nil => rfl
  | cons op ops ih => exact congrArg (_ :: ·) (ih (session.step op).after)

/-- Every deed of a history has its effect on the session that the operations before it lead to. -/
theorem exists_of_mem_history {ops : List Op} {deed : Deed} (h : deed ∈ session.history ops) :
    ∃ front back next, ops = front ++ deed.op :: back ∧ deed.before = session.after front ∧
      Effect deed.before deed.op deed.answer next := by
  induction ops generalizing session with
  | nil => cases h
  | cons op ops ih =>
    rcases List.mem_cons.mp h with rfl | h
    · exact ⟨[], ops, _, rfl, rfl, effect_step session op⟩
    · obtain ⟨front, back, next, rfl, hbefore, heffect⟩ := ih h
      exact ⟨op :: front, back, next, rfl, hbefore, heffect⟩

/-- What holds of the empty history, and of a longer one if it holds of the history before its last
deed, holds of the history of every run and the session at its end. -/
theorem history_induction {motive : List Deed → Session → Prop} (ops : List Op)
    (hstart : motive [] session)
    (hdeed : ∀ {deeds : List Deed} {session : Session} {op : Op} {answer : Except Problem Answer}
      {next : Session}, motive deeds session → Effect session op answer next →
        motive (deeds ++ [⟨session, op, answer⟩]) next) :
    motive (session.history ops) (session.after ops) := by
  induction ops using List.reverseRecOn with
  | nil => exact hstart
  | append_singleton ops op ih =>
    rw [history_append, after_append]
    exact hdeed ih (effect_step (session.after ops) op)

end IdentityForms.Session
