import IdentityForms.Proofs.Form.Placement
import IdentityForms.Proofs.Session.History
import IdentityForms.Proofs.Session.Invisible
import IdentityForms.Proofs.Session.Mirror
import Mathlib.Data.List.DropRight

/-! What the failures in a form mean. Those of a field are what its latest validation has found in
the value of that time, and they are in view once the field is touched. All of this is forgotten
when the form is laid out afresh or emptied. -/
namespace IdentityForms

theorem Form.unmarked_of_pristine {form : Form} (h : form.pristine = form) :
    ∀ field ∈ form.fields, field.entry.touched = false ∧ field.entry.failures = ∅ := by
  rw [← h, forall_mem_fields]
  refine ⟨⟨rfl, rfl⟩, ?_⟩
  intro cleared hcleared
  obtain ⟨group, -, rfl⟩ := List.mem_map.mp hcleared
  intro emptied hemptied
  obtain ⟨field, -, rfl⟩ := List.mem_map.mp hemptied
  exact ⟨rfl, rfl⟩

namespace Session

namespace Op

/-- Whether an operation lays the form out afresh or empties it. -/
def rebuilds : Op → Bool
  | select _ => true
  | _ => false

/-- Whether an operation is about the field at a place: it submits the form, or gives names that
lead there. -/
def concerns (form : Form) (place : Nat) : Op → Bool
  | fill category label _ | touch category label | validate category label _ =>
    form.place? ⟨some category, label⟩ = some place
  | submit _ _ => true
  | _ => false

def touches : Op → Bool
  | touch _ _ | submit _ _ => true
  | _ => false

/-- The moment at which an operation validates what it is about, if it does. -/
def checksAt? : Op → Option Moment
  | validate _ _ now | submit _ now => some now
  | _ => none

/-- What an operation makes of a field that it is about. -/
def change : Op → Form.Field → Form.Field
  | fill _ _ value => (·.fill value)
  | touch _ _ => (·.touch)
  | validate _ _ now => (·.validate now)
  | submit _ now => (·.checked now)
  | _ => id

variable (op : Op) (field : Form.Field)

theorem rules_change : (op.change field).rules = field.rules := by
  cases op <;> rfl

theorem touched_change : (op.change field).entry.touched = (op.touches || field.entry.touched) := by
  cases op <;> rfl

theorem failures_change : (op.change field).entry.failures =
    op.checksAt?.elim field.entry.failures (Rule.failures field.rules field.entry.value) := by
  cases op <;> rfl

end Op

/-- The operations about the field at a place that had an effect since the form was last laid out
or emptied. -/
def concerning (deeds : List Deed) (place : Nat) : List Deed :=
  ((deeds.filter (isVisible ·.answer)).rtakeWhile (!·.op.rebuilds)).filter fun deed =>
    deed.op.concerns deed.before.form place

/-- The value that an operation has validated at a place, and the moment of that. -/
def Deed.check? (place : Nat) (deed : Deed) : Option (String × Moment) := do
  let now ← deed.op.checksAt?
  let field ← deed.before.form.fields[place]?
  some (field.entry.value, now)

/-- What rules say of the value that was last validated at a place. -/
def found (deeds : List Deed) (place : Nat) (rules : List Rule) : Failures :=
  ((concerning deeds place).filterMap (Deed.check? place)).getLast?.elim ∅ fun (value, now) =>
    Rule.failures rules value now

def isTouched (deeds : List Deed) (place : Nat) : Bool :=
  (concerning deeds place).any (·.op.touches)

/-- Whether every field has the failures that a history tells, and is touched if it tells so. -/
def Reflects (session : Session) (deeds : List Deed) : Prop :=
  ∀ place field, session.form.fields[place]? = some field →
    field.entry.failures = found deeds place field.rules ∧
    field.entry.touched = isTouched deeds place

variable {session next : Session} {op : Op} {answer : Except Problem Answer} {deeds : List Deed}
  {deed : Deed} {place : Nat}

@[simp] theorem form_withForm (session : Session) (form : Form) :
    (session.withForm form).form = form := rfl

theorem concerning_concat_invisible (h : isVisible deed.answer = false) :
    concerning (deeds ++ [deed]) place = concerning deeds place := by
  unfold concerning
  rw [List.filter_append, List.filter_singleton, h, cond_false, List.append_nil]

theorem concerning_concat_rebuilding (h : isVisible deed.answer) (hrebuilds : deed.op.rebuilds) :
    concerning (deeds ++ [deed]) place = [] := by
  unfold concerning
  rw [List.filter_append, List.filter_singleton, h, cond_true,
    List.rtakeWhile_concat_neg _ _ _ (by simp [hrebuilds]), List.filter_nil]

theorem concerning_concat (h : isVisible deed.answer) (hkept : deed.op.rebuilds = false) :
    concerning (deeds ++ [deed]) place = concerning deeds place ++
      [deed].filter fun deed => deed.op.concerns deed.before.form place := by
  unfold concerning
  rw [List.filter_append, List.filter_singleton, h, cond_true,
    List.rtakeWhile_concat_pos _ _ _ (by simp [hkept]), List.filter_append]

theorem found_concat (h : isVisible deed.answer) (hkept : deed.op.rebuilds = false)
    {field : Form.Field} (hfield : deed.before.form.fields[place]? = some field) :
    found (deeds ++ [deed]) place field.rules =
      if deed.op.concerns deed.before.form place then
        deed.op.checksAt?.elim (found deeds place field.rules)
          (Rule.failures field.rules field.entry.value)
      else found deeds place field.rules := by
  unfold found
  rw [concerning_concat h hkept, List.filterMap_append, List.getLast?_append]
  by_cases hconcerns : deed.op.concerns deed.before.form place
  · cases hchecks : deed.op.checksAt? <;> simp [hconcerns, hchecks, Deed.check?, hfield]
  · simp [hconcerns]

theorem isTouched_concat (h : isVisible deed.answer) (hkept : deed.op.rebuilds = false) :
    isTouched (deeds ++ [deed]) place =
      if deed.op.concerns deed.before.form place then deed.op.touches || isTouched deeds place
      else isTouched deeds place := by
  unfold isTouched
  rw [concerning_concat h hkept, List.any_append, Bool.or_comm]
  by_cases hconcerns : deed.op.concerns deed.before.form place <;> simp [hconcerns]

theorem Effect.pristine (heffect : Effect session op answer next) (h : isVisible answer)
    (hrebuilds : op.rebuilds) : next.form.pristine = next.form := by
  cases heffect with
  | selected name layout hlayout =>
    rcases layOut_eq_ok.mp hlayout with ⟨-, rfl⟩ | ⟨_, provider, -, -, -, rfl⟩
    · rfl
    · exact provider.pristine_layOut name
  | refused => cases h
  | loaded op schema hoffer =>
    cases op with
    | select => cases hoffer
    | _ => cases hrebuilds
  | _ => cases hrebuilds

/-- An operation that has an effect changes the fields that it is about, and no others. -/
theorem Effect.getElem?_fields (heffect : Effect session op answer next) (h : isVisible answer)
    (hkept : op.rebuilds = false) (place : Nat) :
    next.form.fields[place]? = (session.form.fields[place]?).map fun field =>
      if op.concerns session.form place then op.change field else field := by
  have hunconcerned (hconcerns : op.concerns session.form place = false) :
      session.form.fields[place]? = (session.form.fields[place]?).map fun field =>
        if op.concerns session.form place then op.change field else field := by
    simp [hconcerns]
  cases heffect with
  | refused => cases h
  | selected => cases hkept
  | loaded op schema hoffer =>
    apply hunconcerned
    cases op with
    | load => rfl
    | loadText => rfl
    | _ => cases hoffer
  | filled category label value form hform =>
    have hfields := Form.getElem?_fields_modifyField (f := (·.fill value)) (fun _ => rfl) hform place
    simpa [Op.concerns, Op.change] using hfields
  | touched category label form hform =>
    have hfields := Form.getElem?_fields_modifyField (f := (·.touch)) (fun _ => rfl) hform place
    simpa [Op.concerns, Op.change] using hfields
  | validated category label now form hform =>
    have hfields :=
      Form.getElem?_fields_modifyField (f := (·.validate now)) (fun _ => rfl) hform place
    simpa [Op.concerns, Op.change] using hfields
  | submitted reaction now =>
    have hfree : ¬ session.desk.gate.phase.isEngaged := by
      intro hbusy
      rw [session.desk.submit_of_isEngaged reaction now hbusy] at h
      cases h
    have hform : (session.desk.submit reaction now).after.form = session.form.checked now := by
      rw [session.desk.form_submit, if_neg hfree]
      rfl
    change (session.desk.submit reaction now).after.form.fields[place]? = _
    rw [hform, Form.fields_checked, List.getElem?_map]
    rfl
  | _ => exact hunconcerned rfl

theorem Reflects.effect (h : session.Reflects deeds) (heffect : Effect session op answer next) :
    next.Reflects (deeds ++ [⟨session, op, answer⟩]) := by
  intro place field hfield
  cases hvisible : isVisible answer with
  | false =>
    rw [heffect.invisible hvisible] at hfield
    unfold found isTouched
    rw [concerning_concat_invisible hvisible]
    exact h place field hfield
  | true =>
    cases hrebuilds : op.rebuilds with
    | true =>
      have hmem : field ∈ next.form.fields := List.mem_of_getElem? hfield
      have hunmarked := Form.unmarked_of_pristine (heffect.pristine hvisible hrebuilds) field hmem
      unfold found isTouched
      rw [concerning_concat_rebuilding hvisible hrebuilds]
      exact hunmarked.symm
    | false =>
      rw [heffect.getElem?_fields hvisible hrebuilds, Option.map_eq_some_iff] at hfield
      obtain ⟨before, hbefore, rfl⟩ := hfield
      obtain ⟨hfailures, htouched⟩ := h place before hbefore
      by_cases hconcerns : op.concerns session.form place
      · rw [if_pos hconcerns, op.rules_change, op.failures_change, op.touched_change,
          found_concat hvisible hrebuilds hbefore, isTouched_concat hvisible hrebuilds,
          if_pos hconcerns, if_pos hconcerns, hfailures, htouched]
        exact ⟨rfl, rfl⟩
      · rw [if_neg hconcerns, found_concat hvisible hrebuilds hbefore,
          isTouched_concat hvisible hrebuilds, if_neg hconcerns, if_neg hconcerns]
        exact ⟨hfailures, htouched⟩

theorem reflects_after (settings : Settings) (ops : List Op) :
    ((start settings).after ops).Reflects ((start settings).history ops) := by
  refine history_induction (motive := fun deeds session => session.Reflects deeds) ops ?_
    Reflects.effect
  intro place field hfield
  exact (Form.unmarked_of_pristine rfl field (List.mem_of_getElem? hfield)).symm

theorem Reflects.shown (h : session.Reflects deeds) : session.form.shown =
    session.form.placed.zipIdx.filterMap fun ((path, field), place) =>
      if isTouched deeds place && !(found deeds place field.rules).isEmpty then
        some (path, found deeds place field.rules)
      else none := by
  conv_lhs => rw [Form.shown, ← List.zipIdx_map_fst 0 session.form.placed, List.filterMap_map]
  apply List.filterMap_congr
  rintro ⟨⟨path, field⟩, place⟩ hentry
  have hfield : session.form.fields[place]? = some field := by
    rw [Form.getElem?_fields, List.mem_zipIdx_iff_getElem?.mp hentry, Option.map_some]
  obtain ⟨hfailures, htouched⟩ := h place field hfield
  simp only [Function.comp_apply, Form.Entry.shown?, Form.Entry.isValid, hfailures, htouched]
  split <;> rfl

/-- After any run each field has the failures that its latest validation has found, or none if it
was not validated since the form was last laid out or emptied, and is touched just if something has
touched it since. In view are, in display order, the fields that are touched and have failures. -/
theorem display_reflects_history (settings : Settings) (ops : List Op) :
    let session := (start settings).after ops
    let deeds := (start settings).history ops
    deeds.map Deed.op = ops ∧
    deeds.map Deed.answer = ((start settings).run ops).1.map Step.answer ∧
    (∀ place field, session.form.fields[place]? = some field →
      field.entry.failures = found deeds place field.rules ∧
      field.entry.touched = isTouched deeds place) ∧
    (session.form.shown = session.form.placed.zipIdx.filterMap fun ((path, field), place) =>
      if isTouched deeds place && !(found deeds place field.rules).isEmpty then
        some (path, found deeds place field.rules)
      else none) ∧
    (session.form.isValid ↔ session.form.invalidPaths = []) := by
  intro session deeds
  have hreflects : session.Reflects deeds := reflects_after settings ops
  exact ⟨map_op_history _ ops, map_answer_history _ ops, hreflects, hreflects.shown,
    Form.isValid_iff_invalidPaths⟩

end Session

end IdentityForms
