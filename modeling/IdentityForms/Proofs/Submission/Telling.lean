import IdentityForms.Proofs.Submission.Completion
import Mathlib.Data.List.DropRight

/-! What a gate tells its surroundings and the trail that it leaves. Both follow from the outcome
of a submission; and the phase of a gate is where its trail ends, unless the handle handed out
there has been completed since. -/
namespace IdentityForms.Submission

namespace Outcome

/-- What the surroundings are told of an outcome. -/
def events (settings : Settings) : Outcome → List Event
  | ignored => []
  | rejected _ => [
      .notice .error settings.onRejection.message settings.onRejection.millis .rejected,
      .validationFailed .rejected]
  | accepted _ => [
      .notice .success settings.onAcceptance.message settings.onAcceptance.millis .accepted,
      .accepted .transitioning]

/-- The phases of a submission that ends so. -/
def phases : Outcome → List Phase
  | ignored => []
  | rejected _ => [.validating, .rejected, .idle]
  | accepted _ => [.validating, .accepted, .transitioning]

end Outcome

namespace Event

def isNotice (tone : Tone) : Event → Bool
  | notice other _ _ _ => other = tone
  | _ => false

def isFailure : Event → Bool
  | validationFailed _ => true
  | _ => false

def isHandover : Event → Bool
  | accepted _ => true
  | _ => false

end Event

namespace Move

def verdict? : Move → Option (Outcome × List Event)
  | submission outcome events => some (outcome, events)
  | completion | dropping => none

def outcome? (move : Move) : Option Outcome := move.verdict?.map (·.1)

def events (move : Move) : List Event := move.verdict?.elim [] (·.2)

def isRejection : Move → Bool
  | submission (.rejected _) _ => true
  | _ => false

/-- The outcome of a submission that is not ignored. -/
def cycle? : Move → Option Outcome
  | submission .ignored _ | completion | dropping => none
  | submission outcome _ => some outcome

end Move

namespace Lifecycle

def rejections (turns : List Turn) : Nat := turns.countP (·.move.isRejection)

/-- The outcome of the latest submission that was not ignored. -/
def latest? (turns : List Turn) : Option Outcome := (turns.filterMap (·.move.cycle?)).getLast?

/-- The turns after that submission. -/
def since (turns : List Turn) : List Turn := turns.rtakeWhile (·.move.cycle?.isNone)

/-- How the submission ends that an act makes, and what the surroundings are told of it. -/
def verdict? (lifecycle : Lifecycle) : Act → Option (Outcome × List Event)
  | .submit reaction form now =>
    let verdict := lifecycle.submit reaction form now
    some (verdict.outcome, verdict.events)
  | .complete | .drop => none

def verdicts (lifecycle : Lifecycle) : List Act → List (Outcome × List Event)
  | [] => []
  | act :: acts => (lifecycle.verdict? act).toList ++ (lifecycle.perform act).verdicts acts

/-- The notices of the settings are those of the gate. -/
def Follows (settings : Settings) (lifecycle : Lifecycle) : Prop :=
  lifecycle.gate.onRejection = settings.onRejection ∧
    lifecycle.gate.onAcceptance = settings.onAcceptance

/-- The trail is that of one submission, or none, and the phase is where it ends or, if it ends
in transition, what follows that. -/
structure Orderly (lifecycle : Lifecycle) : Prop where
  trail : ∃ outcome : Outcome, lifecycle.gate.trail = outcome.phases
  phase : lifecycle.gate.phase = lifecycle.gate.trail.getLastD .idle ∨
    lifecycle.gate.trail.getLast? = some .transitioning ∧ lifecycle.gate.phase = .submitted

variable {settings : Settings} {first last : Lifecycle} {move : Move} {turns : List Turn}

theorem Follows.makes (h : Follows settings first) (hmove : Makes first move last) :
    Follows settings last := by
  cases hmove with
  | _ => exact h

/-- The surroundings are told what the outcome calls for, and no more. -/
theorem Follows.events (h : Follows settings first) (hmove : Makes first move last) :
    move.events = move.outcome?.elim [] (Outcome.events settings) := by
  cases hmove with
  | rejected gate held form hfree =>
    have hnotice : gate.onRejection = settings.onRejection := h.1
    simp only [Move.events, Move.outcome?, Move.verdict?, Gate.reject, Option.map_some,
      Option.elim_some, Outcome.events, ← hnotice]
    rfl
  | accepted gate held form now hfree =>
    have hnotice : gate.onAcceptance = settings.onAcceptance := h.2
    simp only [Move.events, Move.outcome?, Move.verdict?, Gate.accept, Option.map_some,
      Option.elim_some, Outcome.events, ← hnotice]
    rfl
  | _ => rfl

theorem Makes.cycle (hmove : Makes first move last) {outcome : Outcome}
    (hcycle : move.cycle? = some outcome) :
    last.gate.trail = outcome.phases ∧ last.gate.phase = outcome.phases.getLastD .idle := by
  cases hmove with
  | ignored => cases hcycle
  | rejected =>
    cases hcycle
    exact ⟨rfl, rfl⟩
  | accepted =>
    cases hcycle
    exact ⟨rfl, rfl⟩
  | completion => cases hcycle
  | dropping => cases hcycle

theorem Makes.quiet (hmove : Makes first move last) (hquiet : move.cycle? = none) :
    last.gate.trail = first.gate.trail ∧
      last.gate.phase = if move = .completion then .submitted else first.gate.phase := by
  cases hmove with
  | ignored => exact ⟨rfl, rfl⟩
  | rejected => cases hquiet
  | accepted => cases hquiet
  | completion => exact ⟨rfl, rfl⟩
  | dropping => exact ⟨rfl, rfl⟩

theorem Path.quiet (path : Path first turns last)
    (hquiet : ∀ turn ∈ turns, turn.move.cycle? = none) :
    last.gate.trail = first.gate.trail ∧ last.gate.phase =
      if ∃ turn ∈ turns, turn.move = .completion then .submitted else first.gate.phase := by
  induction path with
  | nil => simp
  | cons hmove _ ih =>
    rw [List.forall_mem_cons] at hquiet
    obtain ⟨htrail, hphase⟩ := hmove.quiet hquiet.1
    obtain ⟨htrails, hphases⟩ := ih hquiet.2
    refine ⟨htrails.trans htrail, ?_⟩
    rw [hphases, hphase]
    simp only [List.exists_mem_cons_iff]
    split_ifs <;> grind

theorem Orderly.getLast?_trail (h : first.Orderly) (hphase : first.gate.phase = .transitioning) :
    first.gate.trail.getLast? = some .transitioning := by
  rcases h.phase with hlast | ⟨hlast, -⟩
  · rw [hphase, List.getLastD_eq_getLast?] at hlast
    cases hgot : first.gate.trail.getLast? with
    | none =>
      rw [hgot] at hlast
      cases hlast
    | some phase =>
      rw [hgot] at hlast
      exact congrArg some hlast.symm
  · exact hlast

theorem Orderly.makes (h : first.Sound ∧ first.Orderly) (hmove : Makes first move last) :
    last.Sound ∧ last.Orderly := by
  refine ⟨h.1.makes hmove, ?_⟩
  cases hcycle : move.cycle? with
  | some outcome =>
    obtain ⟨htrail, hphase⟩ := hmove.cycle hcycle
    exact ⟨⟨outcome, htrail⟩, .inl (htrail ▸ hphase)⟩
  | none =>
    obtain ⟨htrail, hphase⟩ := hmove.quiet hcycle
    refine ⟨htrail ▸ h.2.trail, ?_⟩
    rw [htrail, hphase]
    split
    · next hcompletion =>
      -- A handle is held, so the gate is in transition, and that is where its trail ends.
      subst hcompletion
      cases hmove with
      | completion gate held =>
        exact .inr ⟨h.2.getLast?_trail (h.1.transitioning (Nat.succ_pos held)), rfl⟩
    · exact h.2.phase

theorem Path.trail (path : Path first turns last) :
    last.gate.trail = (latest? turns).elim first.gate.trail Outcome.phases := by
  induction path with
  | nil => rfl
  | cons hmove _ ih =>
    rw [ih, latest?, latest?, List.filterMap_cons]
    split
    · next hcycle => rw [(hmove.quiet hcycle).1]
    · next outcome hcycle =>
      rw [(hmove.cycle hcycle).1, List.getLast?_cons]
      cases (List.filterMap _ _).getLast? <;> rfl

theorem Path.settled_of_concat {turn : Turn} (path : Path first (turns ++ [turn]) last)
    (hcycle : turn.move.cycle? ≠ none) :
    last.gate.phase = last.gate.trail.getLastD .idle := by
  obtain ⟨middle, -, hlast⟩ := path.split
  cases hlast with
  | cons hmove hnil =>
    cases hnil
    obtain ⟨outcome, houtcome⟩ := Option.ne_none_iff_exists'.mp hcycle
    obtain ⟨htrail, hphase⟩ := hmove.cycle houtcome
    exact htrail ▸ hphase

/-- Only a completion moves the phase away from where the trail ends. -/
theorem Path.phase (path : Path first turns last)
    (hfirst : first.gate.phase = first.gate.trail.getLastD .idle) :
    last.gate.phase = if ∃ turn ∈ since turns, turn.move = .completion then .submitted
      else last.gate.trail.getLastD .idle := by
  have hsplit : turns.rdropWhile (·.move.cycle?.isNone) ++ since turns = turns :=
    List.rdropWhile_append_rtakeWhile
  have hsince (turn : Turn) (hturn : turn ∈ since turns) : turn.move.cycle? = none := by
    have hnone : turn.move.cycle?.isNone := List.mem_rtakeWhile_imp (p := fun turn : Turn =>
      turn.move.cycle?.isNone) hturn
    exact Option.isNone_iff_eq_none.mp hnone
  rw [← hsplit] at path
  obtain ⟨middle, hfront, hback⟩ := path.split
  have hmiddle : middle.gate.phase = middle.gate.trail.getLastD .idle := by
    by_cases hnil : turns.rdropWhile (·.move.cycle?.isNone) = []
    · rw [hnil] at hfront
      cases hfront
      exact hfirst
    · rw [← List.dropLast_append_getLast hnil] at hfront
      have hlast := List.rdropWhile_last_not (·.move.cycle?.isNone) turns hnil
      rw [Option.isNone_iff_eq_none] at hlast
      exact hfront.settled_of_concat hlast
  obtain ⟨htrail, hphase⟩ := hback.quiet hsince
  rw [hphase, htrail, hmiddle]

theorem filterMap_verdict?_reacting (lifecycle : Lifecycle) (reaction : Reaction) :
    (lifecycle.reacting reaction).filterMap (·.move.verdict?) = [] := by
  cases reaction with
  | hold => rfl
  | complete =>
    unfold reacting completing
    cases lifecycle.complete? <;> rfl
  | drop =>
    unfold reacting dropping
    cases lifecycle.drop? <;> rfl

theorem filterMap_verdict?_turns (lifecycle : Lifecycle) (act : Act) :
    (lifecycle.turns act).filterMap (·.move.verdict?) = (lifecycle.verdict? act).toList := by
  cases act with
  | submit reaction form now =>
    rw [turns, List.filterMap_cons]
    cases (lifecycle.gate.submit form now).outcome with
    | accepted receipt =>
      rw [filterMap_verdict?_reacting]
      rfl
    | ignored => rfl
    | rejected paths => rfl
  | complete => exact filterMap_verdict?_reacting lifecycle .complete
  | drop => exact filterMap_verdict?_reacting lifecycle .drop

/-- The turns of a run record its submissions as they were made. -/
theorem filterMap_verdict?_log (lifecycle : Lifecycle) (acts : List Act) :
    (lifecycle.log acts).filterMap (·.move.verdict?) = lifecycle.verdicts acts := by
  induction acts generalizing lifecycle with
  | nil => rfl
  | cons act acts ih => rw [log, List.filterMap_append, filterMap_verdict?_turns, ih, verdicts]

/-- Events of a kind that just the moves of one kind cause, one each, are as many as these. -/
theorem countP_events {p : Event → Bool} {q : Move → Bool}
    (hevents : ∀ turn ∈ turns, turn.move.events =
      turn.move.outcome?.elim [] (Outcome.events settings))
    (h : ∀ move : Move, (move.outcome?.elim [] (Outcome.events settings)).countP p =
      if q move then 1 else 0) :
    (turns.flatMap (·.move.events)).countP p = turns.countP (q ·.move) := by
  induction turns with
  | nil => rfl
  | cons turn turns ih =>
    rw [List.forall_mem_cons] at hevents
    rw [List.flatMap_cons, List.countP_append, List.countP_cons, ih hevents.2, hevents.1, h,
      Nat.add_comm]

/-- In every run the surroundings are told of each submission what its outcome calls for, as
often as there are such outcomes. The trail is that of the latest submission which was not ignored;
the phase is where it ends, until the handle that it handed out is completed. -/
theorem outcomes_told_and_trailed (settings : Settings) (acts : List Act) :
    let turns := (ofSettings settings).log acts
    let last := (ofSettings settings).after acts
    let told := turns.flatMap (·.move.events)
    Path (ofSettings settings) turns last ∧
    turns.filterMap (·.move.verdict?) = (ofSettings settings).verdicts acts ∧
    (∀ turn ∈ turns, turn.move.events = turn.move.outcome?.elim [] (Outcome.events settings)) ∧
    told.countP (Event.isNotice .success) = acceptances turns ∧
    told.countP Event.isHandover = acceptances turns ∧
    told.countP (Event.isNotice .error) = rejections turns ∧
    told.countP Event.isFailure = rejections turns ∧
    (∀ turn ∈ turns, turn.before.Orderly ∧ turn.after.Orderly) ∧ last.Orderly ∧
    last.gate.trail = (latest? turns).elim [] Outcome.phases ∧
    last.gate.phase = if ∃ turn ∈ since turns, turn.move = .completion then .submitted
      else last.gate.trail.getLastD .idle := by
  intro turns last told
  have path : Path (ofSettings settings) turns last := path_log _ acts
  have hfollows : Follows settings (ofSettings settings) := ⟨rfl, rfl⟩
  have horderly : (ofSettings settings).Sound ∧ (ofSettings settings).Orderly :=
    ⟨sound_ofSettings settings, ⟨.ignored, rfl⟩, .inl rfl⟩
  have hevents : ∀ turn ∈ turns,
      turn.move.events = turn.move.outcome?.elim [] (Outcome.events settings) :=
    path.forall_of_kept Follows.makes hfollows Follows.events
  refine ⟨path, filterMap_verdict?_log _ acts, hevents, countP_events hevents ?success,
    countP_events hevents ?handover, countP_events hevents ?error, countP_events hevents ?failure,
    ?around, (path.keeps Orderly.makes horderly).2, path.trail, path.phase rfl⟩
  case around =>
    exact path.forall_of_kept Orderly.makes horderly fun h hmove => ⟨h.2, (Orderly.makes h hmove).2⟩
  all_goals
    intro move
    cases move with
    | submission outcome events => cases outcome <;> rfl
    | _ => rfl

end Lifecycle

end IdentityForms.Submission
