import IdentityForms.Proofs.Search.Worker

/-! A search is what its worker does if it runs until it is idle around every step: whatever the
order in which the worker does what is ready, it comes to the same rest. -/
namespace IdentityForms.Search

/-- The station of a worker that is idle behind a search. The quiet time of the input that waits
and what is left until its deadline make up one pause. -/
def Worker.StandsFor (worker : Worker) (search : Search) : Prop :=
  match search.pending? with
  | none => worker.station = if search.isClosed then .ended else .receiving
  | some pending => search.isClosed = false ∧ ∃ deadline,
      worker.station = .pausing pending.text deadline ∧ worker.now < deadline ∧
        deadline + pending.quiet = worker.now + search.pause

structure Follows (worker : Worker) (search : Search) : Prop where
  names : worker.names = search.names
  pause : worker.pause = search.pause
  inbox : worker.inbox = []
  isOpen : worker.isOpen = !search.isClosed
  evaluations : worker.evaluations = search.latest.number
  station : worker.StandsFor search

/-- What a step makes of the worker when it runs until it is idle, and what it publishes. -/
structure Answers (worker : Worker) (search : Search) (step : Step) (settled : Worker) : Prop where
  settles : ∀ last, (worker.undergo step).Settles last ↔ last = settled
  follows : Follows settled (search.step step)
  channel : settled.channel = worker.channel ++ (search.published? step).toList

theorem follows_spawn (names : List String) (pause : Nat) :
    Follows (.spawn names pause) (start names pause) :=
  ⟨rfl, rfl, rfl, rfl, rfl, rfl⟩

variable {worker : Worker} {search : Search}

theorem Follows.station_of_none (h : Follows worker search) (hpending : search.pending? = none) :
    worker.station = if search.isClosed then .ended else .receiving := by
  have hstation := h.station
  unfold Worker.StandsFor at hstation
  rwa [hpending] at hstation

theorem Follows.station_of_some (h : Follows worker search) {pending : Pending}
    (hpending : search.pending? = some pending) : search.isClosed = false ∧ ∃ deadline,
      worker.station = .pausing pending.text deadline ∧ worker.now < deadline ∧
        deadline + pending.quiet = worker.now + search.pause := by
  have hstation := h.station
  unfold Worker.StandsFor at hstation
  rwa [hpending] at hstation

theorem step_input (hopen : search.isClosed = false) (text : String) :
    search.step (.input text) = if search.pause = 0 then search.evaluate text
      else { search with pending? := some ⟨text, 0⟩ } := by
  simp [step, hopen, settle, evaluate]

theorem step_sleep_of_none (hpending : search.pending? = none) (time : Nat) :
    search.step (.sleep time) = search := by
  obtain ⟨names, pause, latest, pending?, isClosed⟩ := search
  cases hpending
  rfl

theorem step_sleep_of_some {pending : Pending} (hpending : search.pending? = some pending)
    (time : Nat) : search.step (.sleep time) =
      if search.pause ≤ pending.quiet + time then search.evaluate pending.text
      else { search with pending? := some ⟨pending.text, pending.quiet + time⟩ } := by
  simp [step, wait, settle, hpending, evaluate]

theorem step_close_of_none (hpending : search.pending? = none) :
    search.step .close = { search with isClosed := true } := by
  simp [step, flush, hpending]

theorem step_close_of_some {pending : Pending} (hpending : search.pending? = some pending) :
    search.step .close = { search.evaluate pending.text with isClosed := true } := by
  simp [step, flush, hpending]

theorem published?_eq_some (step : Step) {text : String}
    (h : (search.step step).latest = (search.evaluate text).latest) :
    search.published? step =
      some ⟨text, matchingNames search.names text, search.latest.number + 1⟩ := by
  simp [published?, h, evaluate]

theorem published?_eq_none (step : Step) (h : (search.step step).latest = search.latest) :
    search.published? step = none := by
  simp [published?, h]

theorem Follows.evaluate (h : Follows worker search) {step : Step} (text : String) (now : Nat)
    (isClosed : Bool)
    (hsettles : ∀ last, (worker.undergo step).Settles last ↔ last =
      { worker.evaluate text with
        now, inbox := [], isOpen := !isClosed
        station := if isClosed then .ended else .receiving })
    (hstep : search.step step = { search.evaluate text with isClosed }) :
    ∃ settled, Answers worker search step settled := by
  refine ⟨_, hsettles, ?_, ?_⟩
  · rw [hstep]
    exact ⟨h.names, h.pause, rfl, rfl, congrArg (· + 1) h.evaluations, rfl⟩
  · have hlatest : (search.step step).latest = (search.evaluate text).latest := by rw [hstep]
    rw [published?_eq_some step hlatest]
    simp [Worker.evaluate, h.names, h.evaluations]

theorem answers_of_latest {step : Step} {settled : Worker}
    (hsettles : ∀ last, (worker.undergo step).Settles last ↔ last = settled)
    (hfollows : Follows settled (search.step step))
    (hlatest : (search.step step).latest = search.latest)
    (hchannel : settled.channel = worker.channel) :
    ∃ settled, Answers worker search step settled := by
  refine ⟨settled, hsettles, hfollows, ?_⟩
  rw [hchannel, published?_eq_none step hlatest]
  exact (List.append_nil _).symm

theorem Follows.input_of_closed (h : Follows worker search) (hclosed : search.isClosed)
    (text : String) : ∃ settled, Answers worker search (.input text) settled := by
  have hopen : worker.isOpen = false := by rw [h.isOpen, hclosed]; rfl
  have hworker : worker.undergo (.input text) = worker := by simp [Worker.undergo, hopen]
  have hsearch : search.step (.input text) = search := if_pos hclosed
  have hidle : worker.Idle := by
    cases hpending : search.pending? with
    | none => exact Worker.idle_ended ((h.station_of_none hpending).trans (if_pos hclosed))
    | some pending =>
      exact absurd (hclosed.symm.trans (h.station_of_some hpending).1) (by decide)
  have hsettles (last : Worker) : (worker.undergo (.input text)).Settles last ↔ last = worker := by
    rw [hworker]
    exact Worker.settles_of_idle hidle
  exact answers_of_latest hsettles (by rw [hsearch]; exact h) (by rw [hsearch]) rfl

theorem Follows.input_of_open (h : Follows worker search) (hclosed : search.isClosed = false)
    (text : String) : ∃ settled, Answers worker search (.input text) settled := by
  have hopen : worker.isOpen = true := by rw [h.isOpen, hclosed]; rfl
  have hstation : worker.station = .receiving ∨ ∃ latest deadline,
      worker.station = .pausing latest deadline ∧ worker.now < deadline := by
    cases hpending : search.pending? with
    | none => exact .inl ((h.station_of_none hpending).trans (by rw [hclosed]; rfl))
    | some pending =>
      obtain ⟨-, deadline, hpausing, hdue, -⟩ := h.station_of_some hpending
      exact .inr ⟨pending.text, deadline, hpausing, hdue⟩
  have hsettles (last : Worker) : (worker.undergo (.input text)).Settles last ↔ last = _ :=
    (Worker.settles_input text h.inbox hopen hstation).trans (Worker.settles_receive text hopen)
  have hstep := step_input hclosed text
  by_cases hpause : search.pause = 0
  · rw [if_pos hpause] at hstep
    simp only [h.pause.trans hpause, if_true] at hsettles
    refine h.evaluate text worker.now false (fun last => (hsettles last).trans ?_) ?_
    · simp [Worker.receive, Worker.evaluate, hopen]
    · rw [hstep, ← hclosed]
      rfl
  · rw [if_neg hpause] at hstep
    simp only [h.pause, hpause, if_false] at hsettles
    refine answers_of_latest hsettles ?_ (by rw [hstep]) rfl
    rw [hstep]
    refine ⟨h.names, h.pause, rfl, h.isOpen, h.evaluations, hclosed, _, rfl, ?_, ?_⟩
    · change worker.now < worker.now + worker.pause
      have hworker : worker.pause = search.pause := h.pause
      omega
    · exact congrArg (worker.now + ·) h.pause

theorem Follows.sleep (h : Follows worker search) (time : Nat) :
    ∃ settled, Answers worker search (.sleep time) settled := by
  cases hpending : search.pending? with
  | none =>
    have hstep := step_sleep_of_none hpending time
    have hstation := h.station_of_none hpending
    have hidle : (worker.undergo (.sleep time)).Idle := by
      cases hclosed : search.isClosed with
      | true => exact Worker.idle_ended (hstation.trans (by rw [hclosed]; rfl))
      | false =>
        exact Worker.idle_receiving (hstation.trans (by rw [hclosed]; rfl)) h.inbox
          (h.isOpen.trans (by rw [hclosed]; rfl))
    refine answers_of_latest (fun last => Worker.settles_of_idle hidle) ?_ (by rw [hstep]) rfl
    rw [hstep]
    refine ⟨h.names, h.pause, h.inbox, h.isOpen, h.evaluations, ?_⟩
    unfold Worker.StandsFor
    rw [hpending]
    exact hstation
  | some pending =>
    obtain ⟨hclosed, deadline, hpausing, hdue, htotal⟩ := h.station_of_some hpending
    have hopen : worker.isOpen = true := by rw [h.isOpen, hclosed]; rfl
    have hstep := step_sleep_of_some hpending time
    by_cases hover : search.pause ≤ pending.quiet + time
    · rw [if_pos hover] at hstep
      refine h.evaluate pending.text (worker.now + time) false (fun last => ?_) ?_
      · have hpast : deadline ≤ worker.now + time := by omega
        have hsettles : (worker.undergo (.sleep time)).Settles last ↔ last = _ :=
          Worker.settles_expire hpausing h.inbox hopen hpast
        rw [hsettles]
        simp [Worker.undergo, Worker.evaluate, hopen, h.inbox]
      · rw [hstep, ← hclosed]
        rfl
    · rw [if_neg hover] at hstep
      have hbefore : worker.now + time < deadline := by omega
      refine answers_of_latest
        (fun last => Worker.settles_of_idle (Worker.idle_pausing hpausing h.inbox hopen hbefore))
        ?_ (by rw [hstep]) rfl
      rw [hstep]
      refine ⟨h.names, h.pause, h.inbox, h.isOpen, h.evaluations, hclosed, deadline, hpausing,
        hbefore, ?_⟩
      change deadline + (pending.quiet + time) = worker.now + time + search.pause
      omega

theorem Follows.close (h : Follows worker search) :
    ∃ settled, Answers worker search .close settled := by
  cases hpending : search.pending? with
  | none =>
    have hstep := step_close_of_none hpending
    have hsettles (last : Worker) : (worker.undergo .close).Settles last ↔
        last = { worker with isOpen := false, station := .ended } := by
      have hstation := h.station_of_none hpending
      cases hclosed : search.isClosed with
      | true =>
        rw [hclosed, if_pos rfl] at hstation
        have hsettles : (worker.undergo .close).Settles last ↔ last = worker.undergo .close :=
          Worker.settles_of_idle (Worker.idle_ended hstation)
        rw [hsettles, ← hstation]
        rfl
      | false =>
        rw [hclosed] at hstation
        exact Worker.settles_close_receiving h.inbox hstation
    refine answers_of_latest hsettles ?_ (by rw [hstep]) rfl
    rw [hstep]
    refine ⟨h.names, h.pause, h.inbox, rfl, h.evaluations, ?_⟩
    unfold Worker.StandsFor
    rw [hpending]
    rfl
  | some pending =>
    obtain ⟨-, deadline, hpausing, hdue, -⟩ := h.station_of_some hpending
    refine h.evaluate pending.text worker.now true (fun last => ?_) (step_close_of_some hpending)
    rw [Worker.settles_close_pausing h.inbox hpausing hdue]
    simp [Worker.evaluate, h.inbox]

/-- Whatever the order in which the worker does what is ready, it does what the search does. -/
theorem Follows.step (h : Follows worker search) (step : Step) :
    ∃ settled, Answers worker search step settled := by
  cases step with
  | sleep time => exact h.sleep time
  | close => exact h.close
  | input text =>
    cases hclosed : search.isClosed with
    | true => exact h.input_of_closed hclosed text
    | false => exact h.input_of_open hclosed text

def results (search : Search) : List Step → List Result
  | [] => []
  | step :: steps => (search.published? step).toList ++ (search.step step).results steps

/-- Every run of the worker through a script ends in the same way, and publishes the same. -/
theorem Follows.runs (h : Follows worker search) (script : List Step) :
    ∃ last, (∀ other, worker.Runs script other ↔ other = last) ∧
      last.channel = worker.channel ++ search.results script := by
  induction script generalizing worker search with
  | nil =>
    refine ⟨worker, fun other => ⟨?_, ?_⟩, (List.append_nil _).symm⟩
    · rintro ⟨⟩
      rfl
    · rintro rfl
      exact .nil other
  | cons step script ih =>
    obtain ⟨settled, hanswers⟩ := h.step step
    obtain ⟨last, hlast, hchannel⟩ := ih hanswers.follows
    refine ⟨last, fun other => ⟨?_, fun hother => ?_⟩, ?_⟩
    · rintro (_ | ⟨hnext, rest⟩)
      rw [hanswers.settles] at hnext
      exact (hlast other).mp (hnext ▸ rest)
    · exact .cons ((hanswers.settles settled).mpr rfl) ((hlast other).mpr hother)
    · rw [hchannel, hanswers.channel, List.append_assoc]
      rfl

end IdentityForms.Search
