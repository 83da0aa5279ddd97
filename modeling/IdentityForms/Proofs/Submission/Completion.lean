import IdentityForms.Proofs.Submission.Run

/-! Safety of completion. A completion handle sets the phase of its gate without looking at it;
that it only ever ends the transition it was handed out for rests on an invariant of whole runs:
a handle is held only while its gate is in transition, and then it is the only one. -/
namespace IdentityForms.Submission

namespace Gate

@[simp] theorem phase_after_accept (gate : Gate) (form : Form) (now : Moment) :
    (gate.accept form now).after.1.phase = .transitioning := rfl

@[simp] theorem trail_after_reject (gate : Gate) (form : Form) :
    (gate.reject form).after.1.trail = gate.trail ++ [.rejected] ++ [.idle] := rfl

@[simp] theorem trail_after_accept (gate : Gate) (form : Form) (now : Moment) :
    (gate.accept form now).after.1.trail = gate.trail ++ [.accepted] ++ [.transitioning] := rfl

@[simp] theorem phase_complete (gate : Gate) : gate.complete.phase = .submitted := rfl

end Gate

def Move.isAcceptance : Move → Bool
  | .submission (.accepted _) _ => true
  | _ => false

namespace Lifecycle

def acceptances (turns : List Turn) : Nat := turns.countP (·.move.isAcceptance)

def completions (turns : List Turn) : Nat := turns.countP (·.move = .completion)

/-- What holds of a lifecycle between two moves. -/
structure Sound (lifecycle : Lifecycle) : Prop where
  settled : lifecycle.gate.phase = .idle ∨ lifecycle.gate.phase = .transitioning ∨
    lifecycle.gate.phase = .submitted
  held_le : lifecycle.held ≤ 1
  transitioning : 0 < lifecycle.held → lifecycle.gate.phase = .transitioning
  /-- No submission enters the last phase by itself. -/
  unsubmitted : .submitted ∉ lifecycle.gate.trail

/-- In transition without a handle that could end it. -/
def Stuck (lifecycle : Lifecycle) : Prop :=
  lifecycle.gate.phase = .transitioning ∧ lifecycle.held = 0

variable {first last : Lifecycle} {move : Move} {turns : List Turn}

theorem sound_ofSettings (settings : Settings) : (ofSettings settings).Sound :=
  ⟨.inl rfl, Nat.zero_le 1, fun h => absurd h (Nat.lt_irrefl 0), List.not_mem_nil⟩

theorem Sound.isEngaged_iff (h : first.Sound) :
    first.gate.phase.isEngaged ↔ first.gate.phase = .transitioning := by
  rcases h.settled with hp | hp | hp <;> simp [hp, Phase.isEngaged]

theorem Sound.held_eq_zero (h : first.Sound) (hfree : ¬ first.gate.phase.isEngaged) :
    first.held = 0 := by
  rw [h.isEngaged_iff] at hfree
  exact Nat.eq_zero_of_not_pos fun hheld => hfree (h.transitioning hheld)

theorem Sound.makes (h : first.Sound) (hmove : Makes first move last) : last.Sound := by
  cases hmove with
  | ignored => exact h
  | rejected gate held form hfree =>
    have hheld : held = 0 := h.held_eq_zero hfree
    subst hheld
    exact ⟨.inl rfl, Nat.zero_le 1, fun hheld => absurd hheld (Nat.lt_irrefl 0), by simp⟩
  | accepted gate held form now hfree =>
    have hheld : held = 0 := h.held_eq_zero hfree
    subst hheld
    exact ⟨.inr (.inl rfl), Nat.le_refl 1, fun _ => rfl, by simp⟩
  | completion gate held =>
    have hheld : held + 1 ≤ 1 := h.held_le
    exact ⟨.inr (.inr rfl), by simp only; omega, fun hpos => by simp only at hpos; omega,
      h.unsubmitted⟩
  | dropping gate held =>
    have hheld : held + 1 ≤ 1 := h.held_le
    exact ⟨h.settled, by simp only; omega, fun hpos => by simp only at hpos; omega,
      h.unsubmitted⟩

theorem Path.sound (path : Path first turns last) (h : first.Sound) : last.Sound :=
  path.keeps Sound.makes h

theorem Sound.perform (h : first.Sound) (act : Act) : (first.perform act).Sound :=
  (path_turns first act).sound h

theorem Path.forall_turns {motive : Turn → Prop} (path : Path first turns last) (h : first.Sound)
    (hmotive : ∀ {before : Lifecycle} {move : Move} {after : Lifecycle}, before.Sound →
      Makes before move after → motive ⟨before, move, after⟩) :
    ∀ turn ∈ turns, motive turn :=
  path.forall_of_kept Sound.makes h hmotive

/-- A transition begins with an acceptance and ends with a completion. -/
theorem Path.balance (path : Path first turns last) (h : first.Sound) :
    (if first.gate.phase = .transitioning then 1 else 0) + acceptances turns =
      completions turns + if last.gate.phase = .transitioning then 1 else 0 := by
  induction path with
  | nil => simp [acceptances, completions]
  | cons hmove _ ih =>
    have ih := ih (h.makes hmove)
    unfold acceptances completions at ih ⊢
    rw [List.countP_cons, List.countP_cons]
    cases hmove with
    | ignored => simpa [Move.isAcceptance] using ih
    | rejected gate held form hfree =>
      rw [h.isEngaged_iff] at hfree
      simpa [Move.isAcceptance, Gate.reject, hfree] using ih
    | accepted gate held form now hfree =>
      rw [h.isEngaged_iff] at hfree
      simp [Move.isAcceptance, Gate.accept, hfree] at ih ⊢
      omega
    | completion gate held =>
      have hphase : gate.phase = .transitioning := h.transitioning (Nat.succ_pos held)
      simp [Move.isAcceptance, hphase] at ih ⊢
      omega
    | dropping => simpa [Move.isAcceptance] using ih

theorem Stuck.isEngaged (h : first.Stuck) : first.gate.phase.isEngaged := by
  rw [h.1]
  rfl

theorem Stuck.makes (h : first.Stuck) (hmove : Makes first move last) : last.Stuck := by
  cases hmove with
  | ignored => exact h
  | rejected gate held form hfree => exact absurd h.isEngaged hfree
  | accepted gate held form now hfree => exact absurd h.isEngaged hfree
  | completion => exact absurd h.2 (Nat.succ_ne_zero _)
  | dropping => exact absurd h.2 (Nat.succ_ne_zero _)

theorem Path.stuck (path : Path first turns last) (h : first.Stuck) : last.Stuck :=
  path.keeps Stuck.makes h

theorem Path.stuck_of_dropping (path : Path first turns last) (h : first.Sound)
    (hdrop : ∃ turn ∈ turns, turn.move = .dropping) : last.Stuck := by
  induction path with
  | nil => simp at hdrop
  | cons hmove path ih =>
    obtain ⟨turn, hturn, hdrop⟩ := hdrop
    rcases List.mem_cons.mp hturn with rfl | hturn
    · cases hmove with
      | dropping gate held =>
        have hheld : held + 1 ≤ 1 := h.held_le
        exact path.stuck ⟨h.transitioning (Nat.succ_pos held), by simp only; omega⟩
      | _ => cases hdrop
    · exact ih (h.makes hmove) ⟨turn, hturn, hdrop⟩

theorem Stuck.submit (h : first.Stuck) (reaction : Reaction) (form : Form) (now : Moment) :
    (first.submit reaction form now).outcome = .ignored := by
  unfold Lifecycle.submit
  rw [Gate.submit_of_isEngaged h.isEngaged]

/-- In every run at most one handle is held, and only in transition; a completion ends a
transition and nothing else; and a transition whose handle was dropped lasts. -/
theorem completion_safe (settings : Settings) (acts : List Act) :
    let turns := (ofSettings settings).log acts
    let last := (ofSettings settings).after acts
    Path (ofSettings settings) turns last ∧ last.Sound ∧
    (∀ turn ∈ turns, turn.before.Sound ∧ turn.after.Sound) ∧
    (∀ turn ∈ turns, turn.move = .completion →
      turn.before.gate.phase = .transitioning ∧ turn.after.gate.phase = .submitted) ∧
    (∀ turn ∈ turns, turn.after.gate.phase = .submitted → turn.move = .completion) ∧
    (∀ turn ∈ turns, turn.move.isAcceptance → turn.before.held = 0 ∧ turn.after.held = 1) ∧
    acceptances turns =
      completions turns + (if last.gate.phase = .transitioning then 1 else 0) ∧
    ((∃ turn ∈ turns, turn.move = .dropping) → last.gate.phase = .transitioning ∧
      ∀ reaction form now, (last.submit reaction form now).outcome = .ignored) := by
  intro turns last
  have path : Path (ofSettings settings) turns last := path_log _ acts
  have h := sound_ofSettings settings
  refine ⟨path, path.sound h, path.forall_turns h ?around, path.forall_turns h ?completion,
    path.forall_turns h ?submitted, path.forall_turns h ?acceptance, ?balance, ?dropping⟩
  case around => exact fun hbefore hmove => ⟨hbefore, hbefore.makes hmove⟩
  case completion =>
    intro before move after hbefore hmove hcompletion
    cases hmove with
    | completion gate held => exact ⟨hbefore.transitioning (Nat.succ_pos held), rfl⟩
    | _ => cases hcompletion
  case submitted =>
    intro before move after hbefore hmove hphase
    cases hmove with
    | ignored gate held hbusy =>
      rw [hbefore.isEngaged_iff] at hbusy
      exact absurd (hbusy.symm.trans hphase) (by decide)
    | rejected => cases hphase
    | accepted => cases hphase
    | completion => rfl
    | dropping gate held =>
      have hbusy := hbefore.transitioning (Nat.succ_pos held)
      exact absurd (hbusy.symm.trans hphase) (by decide)
  case acceptance =>
    intro before move after hbefore hmove hacceptance
    cases hmove with
    | accepted gate held form now hfree =>
      have hheld : held = 0 := hbefore.held_eq_zero hfree
      exact ⟨hheld, congrArg (· + 1) hheld⟩
    | _ => cases hacceptance
  case balance =>
    have hbalance := path.balance h
    have hidle : (ofSettings settings).gate.phase = .idle := rfl
    rwa [hidle, if_neg (by decide), Nat.zero_add] at hbalance
  case dropping =>
    intro hdrop
    have hstuck := path.stuck_of_dropping h hdrop
    exact ⟨hstuck.1, hstuck.submit⟩

end Lifecycle

end IdentityForms.Submission
