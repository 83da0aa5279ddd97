import IdentityForms.Proofs.Search.Simulation
import Mathlib

/-! Which inputs of a search are evaluated, said without its state: those that a pause or the
close follows. -/
namespace IdentityForms.Search

def Step.isSleep : Step → Bool
  | .sleep _ => true
  | _ => false

/-- A script closes the search at most once, and then only sleeps. -/
def IsScript (steps : List Step) : Prop :=
  steps.Pairwise fun earlier later => earlier = .close → later.isSleep

instance (steps : List Step) : Decidable (IsScript steps) :=
  inferInstanceAs (Decidable (steps.Pairwise _))

/-- The time that passes before the next step that is no sleep. -/
def quietTime : List Step → Nat
  | .sleep time :: steps => time + quietTime steps
  | _ => 0

def closesNext : List Step → Bool
  | .sleep _ :: steps => closesNext steps
  | .close :: _ => true
  | _ => false

/-- Whether an input is evaluated that has been quiet for a time before the given steps. -/
def IsDue (pause quiet : Nat) (steps : List Step) : Prop :=
  pause ≤ quiet + quietTime steps ∨ closesNext steps

instance (pause quiet : Nat) (steps : List Step) : Decidable (IsDue pause quiet steps) :=
  inferInstanceAs (Decidable (_ ∨ _))

def dueInput? (pause : Nat) : List Step → Option String
  | .input text :: steps => if IsDue pause 0 steps then some text else none
  | _ => none

/-- The inputs of a script that are evaluated. -/
def dueInputs (pause : Nat) (script : List Step) : List String :=
  script.tails.filterMap (dueInput? pause)

def numbered (names : List String) (number : Nat) (texts : List String) : List Result :=
  (texts.zipIdx (number + 1)).map fun (text, number) => ⟨text, matchingNames names text, number⟩

@[simp] theorem numbered_nil (names : List String) (number : Nat) : numbered names number [] = [] :=
  rfl

@[simp] theorem numbered_cons (names : List String) (number : Nat) (text : String)
    (texts : List String) : numbered names number (text :: texts) =
      ⟨text, matchingNames names text, number + 1⟩ :: numbered names (number + 1) texts := by
  simp [numbered, List.zipIdx_cons]

theorem numbered_append (names : List String) (number : Nat) (front back : List String) :
    numbered names number (front ++ back) =
      numbered names number front ++ numbered names (number + front.length) back := by
  simp [numbered, List.zipIdx_append, Nat.add_right_comm]

@[simp] theorem length_numbered (names : List String) (number : Nat) (texts : List String) :
    (numbered names number texts).length = texts.length := by
  simp [numbered]

@[simp] theorem dueInputs_nil (pause : Nat) : dueInputs pause [] = [] := rfl

theorem dueInputs_cons (pause : Nat) (step : Step) (steps : List Step) :
    dueInputs pause (step :: steps) =
      (dueInput? pause (step :: steps)).toList ++ dueInputs pause steps := by
  unfold dueInputs
  rw [List.tails_cons, List.filterMap_cons]
  cases dueInput? pause (step :: steps) <;> rfl

/-- The text of the waiting input if it is evaluated in the given steps. -/
def pendingInputs (search : Search) (steps : List Step) : List String :=
  match search.pending? with
  | some pending => if IsDue search.pause pending.quiet steps then [pending.text] else []
  | none => []

/-- A search that a script can be in before its last steps. An input waits only as long as its
pause lasts and the search is open. -/
structure Awaits (search : Search) (steps : List Step) : Prop where
  waiting : ∀ pending, search.pending? = some pending →
    search.isClosed = false ∧ pending.quiet < search.pause
  isScript : IsScript steps
  sleeping : search.isClosed → ∀ step ∈ steps, step.isSleep

variable {search : Search} {steps : List Step}

theorem isDue_nil {pause quiet : Nat} : IsDue pause quiet [] ↔ pause ≤ quiet := by
  simp [IsDue, quietTime, closesNext]

theorem isDue_input {pause quiet : Nat} {text : String} :
    IsDue pause quiet (.input text :: steps) ↔ pause ≤ quiet := by
  simp [IsDue, quietTime, closesNext]

theorem isDue_sleep {pause quiet time : Nat} :
    IsDue pause quiet (.sleep time :: steps) ↔ IsDue pause (quiet + time) steps := by
  simp [IsDue, quietTime, closesNext, Nat.add_assoc]

theorem isDue_close (pause quiet : Nat) (steps : List Step) :
    IsDue pause quiet (.close :: steps) := .inr rfl

theorem isDue_of_le {pause quiet : Nat} (h : pause ≤ quiet) (steps : List Step) :
    IsDue pause quiet steps := .inl (Nat.le_add_right_of_le h)

theorem pendingInputs_of_none (h : search.pending? = none) (steps : List Step) :
    search.pendingInputs steps = [] := by
  unfold pendingInputs
  rw [h]

theorem pendingInputs_of_some {pending : Pending} (h : search.pending? = some pending)
    (steps : List Step) : search.pendingInputs steps =
      if IsDue search.pause pending.quiet steps then [pending.text] else [] := by
  unfold pendingInputs
  rw [h]

/-- The law of a search whose results, from the given steps on, are those that its inputs call
for. The cases below derive it for a step from the law for the steps after it. -/
def Lawful (search : Search) (steps : List Step) : Prop :=
  search.results steps = numbered search.names search.latest.number
    (search.pendingInputs steps ++ dueInputs search.pause steps)

theorem Lawful.of_published? {step : Step} {text : String} {next : Search}
    (hnext : search.step step = next) (hlatest : next.latest = (search.evaluate text).latest)
    (hfixed : next.names = search.names ∧ next.pause = search.pause ∧ next.pending? = none)
    (hdue : search.pendingInputs (step :: steps) ++ dueInputs search.pause (step :: steps) =
      text :: dueInputs search.pause steps)
    (h : next.Lawful steps) : search.Lawful (step :: steps) := by
  obtain ⟨hnames, hpause, hpending⟩ := hfixed
  have hpublished := published?_eq_some step (hnext ▸ hlatest)
  have hnumber : next.latest.number = search.latest.number + 1 := by rw [hlatest]; rfl
  unfold Lawful at h ⊢
  rw [hdue, numbered_cons, results, hpublished, hnext, h, pendingInputs_of_none hpending, hnames,
    hpause, hnumber]
  rfl

theorem Lawful.of_latest {step : Step} {next : Search} (hnext : search.step step = next)
    (hfixed : next.latest = search.latest ∧ next.names = search.names ∧ next.pause = search.pause)
    (hdue : search.pendingInputs (step :: steps) ++ dueInputs search.pause (step :: steps) =
      next.pendingInputs steps ++ dueInputs search.pause steps)
    (h : next.Lawful steps) : search.Lawful (step :: steps) := by
  obtain ⟨hlatest, hnames, hpause⟩ := hfixed
  have hpublished := published?_eq_none step (hnext ▸ hlatest)
  unfold Lawful at h ⊢
  rw [hdue, results, hpublished, hnext, h, hnames, hpause, hlatest]
  rfl

@[simp] theorem dueInputs_sleep (pause time : Nat) (steps : List Step) :
    dueInputs pause (.sleep time :: steps) = dueInputs pause steps := dueInputs_cons ..

@[simp] theorem dueInputs_close (pause : Nat) (steps : List Step) :
    dueInputs pause (.close :: steps) = dueInputs pause steps := dueInputs_cons ..

theorem dueInputs_input (pause : Nat) (text : String) (steps : List Step) :
    dueInputs pause (.input text :: steps) =
      (if IsDue pause 0 steps then [text] else []) ++ dueInputs pause steps := by
  rw [dueInputs_cons, dueInput?]
  split <;> rfl

theorem Awaits.pendingInputs_eq_nil {later : List Step} (h : search.Awaits later)
    (hdue : ∀ quiet, IsDue search.pause quiet steps ↔ search.pause ≤ quiet) :
    search.pendingInputs steps = [] := by
  cases hpending : search.pending? with
  | none => exact pendingInputs_of_none hpending steps
  | some pending =>
    have hwaiting : pending.quiet < search.pause := (h.waiting pending hpending).2
    have hquiet : ¬ search.pause ≤ pending.quiet := by omega
    rw [pendingInputs_of_some hpending, if_neg (mt (hdue pending.quiet).mp hquiet)]

theorem Awaits.tail {step : Step} {next : Search} (h : search.Awaits (step :: steps))
    (hclosed : next.isClosed → search.isClosed)
    (hwaiting : ∀ pending, next.pending? = some pending →
      next.isClosed = false ∧ pending.quiet < next.pause) : next.Awaits steps :=
  ⟨hwaiting, (List.pairwise_cons.mp h.isScript).2,
    fun hc => (List.forall_mem_cons.mp (h.sleeping (hclosed hc))).2⟩

theorem Awaits.of_close {next : Search} (h : search.Awaits (.close :: steps))
    (hpending : next.pending? = none) : next.Awaits steps := by
  obtain ⟨hclose, hscript⟩ := List.pairwise_cons.mp h.isScript
  refine ⟨?_, hscript, fun _ step hmem => hclose step hmem rfl⟩
  intro pending hsome
  cases hpending.symm.trans hsome

theorem Awaits.lawful_input {text : String} (h : search.Awaits (.input text :: steps))
    (ih : ∀ next : Search, next.Awaits steps → next.Lawful steps) :
    search.Lawful (.input text :: steps) := by
  have hopen : search.isClosed = false := by
    rw [Bool.eq_false_iff]
    intro hc
    exact absurd (h.sleeping hc _ List.mem_cons_self) (by simp [Step.isSleep])
  have hnone : search.pendingInputs (.input text :: steps) = [] :=
    h.pendingInputs_eq_nil fun _ => isDue_input
  have hnext := step_input hopen text
  by_cases hpause : search.pause = 0
  · rw [if_pos hpause] at hnext
    refine .of_published? hnext rfl ⟨rfl, rfl, rfl⟩ ?_ (ih _ (h.tail id (by rintro _ ⟨⟩)))
    rw [hnone, dueInputs_input, if_pos (isDue_of_le (Nat.le_of_eq hpause) steps)]
    rfl
  · rw [if_neg hpause] at hnext
    refine .of_latest hnext ⟨rfl, rfl, rfl⟩ ?_ (ih _ (h.tail id ?_))
    · rw [hnone, dueInputs_input, pendingInputs_of_some rfl]
      rfl
    · rintro pending ⟨⟩
      exact ⟨hopen, Nat.pos_of_ne_zero hpause⟩

theorem Awaits.lawful_sleep {time : Nat} (h : search.Awaits (.sleep time :: steps))
    (ih : ∀ next : Search, next.Awaits steps → next.Lawful steps) :
    search.Lawful (.sleep time :: steps) := by
  cases hpending : search.pending? with
  | none =>
    have hnext := step_sleep_of_none hpending time
    refine .of_latest hnext ⟨rfl, rfl, rfl⟩ ?_ (ih search (h.tail id h.waiting))
    rw [pendingInputs_of_none hpending, pendingInputs_of_none hpending, dueInputs_sleep]
  | some pending =>
    have hnext := step_sleep_of_some hpending time
    by_cases hover : search.pause ≤ pending.quiet + time
    · rw [if_pos hover] at hnext
      refine .of_published? hnext rfl ⟨rfl, rfl, rfl⟩ ?_ (ih _ (h.tail id (by rintro _ ⟨⟩)))
      rw [pendingInputs_of_some hpending, if_pos (isDue_sleep.mpr (isDue_of_le hover steps)),
        dueInputs_sleep]
      rfl
    · rw [if_neg hover] at hnext
      refine .of_latest hnext ⟨rfl, rfl, rfl⟩ ?_ (ih _ (h.tail id ?_))
      · rw [pendingInputs_of_some hpending, pendingInputs_of_some rfl, dueInputs_sleep]
        simp only [isDue_sleep]
      · rintro later ⟨⟩
        exact ⟨(h.waiting pending hpending).1, Nat.lt_of_not_le hover⟩

theorem Awaits.lawful_close (h : search.Awaits (.close :: steps))
    (ih : ∀ next : Search, next.Awaits steps → next.Lawful steps) :
    search.Lawful (.close :: steps) := by
  cases hpending : search.pending? with
  | none =>
    have hnext := step_close_of_none hpending
    have hnone : pendingInputs { search with isClosed := true } steps = [] :=
      pendingInputs_of_none hpending steps
    refine .of_latest hnext ⟨rfl, rfl, rfl⟩ ?_ (ih _ (h.of_close hpending))
    rw [pendingInputs_of_none hpending, hnone, dueInputs_close]
  | some pending =>
    have hnext := step_close_of_some hpending
    refine .of_published? hnext rfl ⟨rfl, rfl, rfl⟩ ?_ (ih _ (h.of_close rfl))
    rw [pendingInputs_of_some hpending, if_pos (isDue_close ..), dueInputs_close]
    rfl

theorem Awaits.lawful (h : search.Awaits steps) : search.Lawful steps := by
  induction steps generalizing search with
  | nil =>
    have hnone : search.pendingInputs [] = [] := h.pendingInputs_eq_nil fun _ => isDue_nil
    simp [Lawful, results, hnone]
  | cons step steps ih =>
    cases step with
    | input text => exact h.lawful_input fun _ => ih
    | sleep time => exact h.lawful_sleep fun _ => ih
    | close => exact h.lawful_close fun _ => ih

theorem results_start (names : List String) (pause : Nat) {script : List Step}
    (h : IsScript script) :
    (start names pause).results script = numbered names 0 (dueInputs pause script) :=
  Awaits.lawful ⟨fun _ hpending => (by cases hpending), h, fun hclosed => (by cases hclosed)⟩

theorem IsScript.of_prefix {front script : List Step} (h : IsScript script)
    (hfront : front <+: script) : IsScript front := h.sublist hfront.sublist

theorem isDue_append_input {pause quiet : Nat} {front : List Step} {text : String} :
    IsDue pause quiet (front ++ .input text :: steps) ↔ IsDue pause quiet front := by
  induction front generalizing quiet with
  | nil => exact isDue_input.trans isDue_nil.symm
  | cons step front ih =>
    cases step with
    | input => exact isDue_input.trans isDue_input.symm
    | sleep time => exact isDue_sleep.trans (ih.trans isDue_sleep.symm)
    | close => exact iff_of_true (isDue_close ..) (isDue_close ..)

/-- A further input decides nothing about the inputs before the one that it follows. -/
theorem dueInputs_append_input (pause : Nat) (front : List Step) (text : String)
    (steps : List Step) : dueInputs pause (front ++ .input text :: steps) =
      dueInputs pause front ++ dueInputs pause (.input text :: steps) := by
  induction front with
  | nil => rfl
  | cons step front ih =>
    cases step with
    | input other =>
      simp only [List.cons_append, dueInputs_input pause other, isDue_append_input, ih,
        List.append_assoc]
    | sleep => simpa using ih
    | close => simpa using ih

theorem isDue_sleeps {pause quiet : Nat} {times : List Nat} :
    IsDue pause quiet (times.map .sleep) ↔ pause ≤ quiet + times.sum := by
  induction times generalizing quiet with
  | nil => exact isDue_nil
  | cons time times ih =>
    rw [List.map_cons, isDue_sleep, ih, List.sum_cons, Nat.add_assoc]

theorem isDue_sleeps_close (pause quiet : Nat) (times : List Nat) :
    IsDue pause quiet (times.map .sleep ++ [.close]) := by
  induction times generalizing quiet with
  | nil => exact isDue_close ..
  | cons time times ih => exact isDue_sleep.mpr (ih (quiet + time))

theorem dueInputs_sleeps (pause : Nat) (times : List Nat) :
    dueInputs pause (times.map .sleep) = [] := by
  induction times with
  | nil => rfl
  | cons time times ih => exact (dueInputs_sleep ..).trans ih

theorem dueInputs_sleeps_close (pause : Nat) (times : List Nat) :
    dueInputs pause (times.map .sleep ++ [.close]) = [] := by
  induction times with
  | nil => exact dueInputs_close ..
  | cons time times ih => exact (dueInputs_sleep ..).trans ih

theorem results_append_input (names : List String) (pause : Nat) {front later : List Step}
    {text : String} (h : IsScript (front ++ .input text :: later))
    (hlater : dueInputs pause later = []) :
    (start names pause).results (front ++ .input text :: later) =
      (start names pause).results front ++ if IsDue pause 0 later then
        [⟨text, matchingNames names text, ((start names pause).results front).length + 1⟩]
      else [] := by
  have hfront : IsScript front := h.of_prefix (List.prefix_append ..)
  rw [results_start names pause h, results_start names pause hfront, dueInputs_append_input,
    numbered_append, length_numbered, dueInputs_input, hlater, List.append_nil, Nat.zero_add]
  split <;> simp

/-- The inputs that are evaluated are those that are quiet for the pause before the next input
or the end, and that before the close. The worker publishes a result for each of them, in order
and numbered from one, in the step that completes its pause, or in the close. -/
theorem debounced (names : List String) (pause : Nat) (script : List Step) (h : IsScript script) :
    (start names pause).results script = numbered names 0 (dueInputs pause script) ∧
    (∃ worker, (Worker.spawn names pause).Runs script worker) ∧
    (∀ worker, (Worker.spawn names pause).Runs script worker →
      worker.channel = ⟨"", names, 0⟩ :: numbered names 0 (dueInputs pause script)) ∧
    (∀ (front later : List Step) (text : String) (times : List Nat),
      script = front ++ Step.input text :: (times.map Step.sleep ++ later) →
      let shown := (start names pause).results front
      let result : Result := ⟨text, matchingNames names text, shown.length + 1⟩
      (start names pause).results (front ++ Step.input text :: times.map Step.sleep) =
          shown ++ (if pause ≤ times.sum then [result] else []) ∧
        (later.head? = some .close →
          (start names pause).results
              (front ++ Step.input text :: (times.map Step.sleep ++ [.close])) =
            shown ++ [result])) := by
  obtain ⟨last, hlast, hchannel⟩ := (follows_spawn names pause).runs script
  have hresults := results_start names pause h
  refine ⟨hresults, ⟨last, (hlast last).mpr rfl⟩, ?channel, ?timing⟩
  case channel =>
    intro worker hruns
    rw [(hlast worker).mp hruns, hchannel, hresults]
    rfl
  case timing =>
    intro front later text times hscript shown result
    subst hscript
    constructor
    · have hsleeps : IsScript (front ++ .input text :: times.map .sleep) :=
        h.of_prefix ⟨later, by simp⟩
      rw [results_append_input names pause hsleeps (dueInputs_sleeps pause times)]
      simp only [isDue_sleeps, Nat.zero_add]
      rfl
    · intro hclose
      obtain ⟨later, rfl⟩ := List.head?_eq_some_iff.mp hclose
      have hsleeps : IsScript (front ++ Step.input text :: (times.map Step.sleep ++ [.close])) :=
        h.of_prefix ⟨later, by simp⟩
      rw [results_append_input names pause hsleeps (dueInputs_sleeps_close pause times),
        if_pos (isDue_sleeps_close ..)]

/-- The first input is overtaken, the second is quiet for exactly the pause, and the close comes
before the third is quiet for long enough. -/
theorem debounced_typing :
    (start ["Abby", "Bob"] 500).results
      [.input "a", .sleep 40, .input "ab", .sleep 500, .input "b", .close, .sleep 9] =
      numbered ["Abby", "Bob"] 0 ["ab", "b"] := by
  have hscript : IsScript
      [.input "a", .sleep 40, .input "ab", .sleep 500, .input "b", .close, .sleep 9] := by decide
  exact (debounced ["Abby", "Bob"] 500 _ hscript).1

end IdentityForms.Search
