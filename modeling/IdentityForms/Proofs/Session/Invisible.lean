import IdentityForms.Proofs.Session.Run
import IdentityForms.Proofs.Submission.Verdict

/-! Operations that fail and submissions that are ignored leave no trace: without them a run is the
same run. Which operations fail, and with which problem, is told by the schema and the names that
the form has. -/
namespace IdentityForms

namespace Form

variable {form : Form} {category label : String} {problem : Problem}

/-- Which of two names leads nowhere in a form. The second is looked up in the first group that
has the first name. -/
inductive Lacks (form : Form) (category label : String) : Problem → Prop where
  | category (h : category ∉ form.groups.map (·.name)) :
      Lacks form category label (.unknownCategory category)
  | field (front : List Group) (group : Group) (back : List Group)
      (hgroups : form.groups = front ++ group :: back) (hname : group.name = category)
      (hfront : category ∉ front.map (·.name)) (h : label ∉ group.labels) :
      Lacks form category label (.unknownField category label)

theorem Group.field?_eq_none {group : Group} :
    group.field? label = none ↔ label ∉ group.labels := by
  simp [Group.field?, Group.labels]

theorem group?_eq_none : form.group? category = none ↔ category ∉ form.groups.map (·.name) := by
  simp [group?]

theorem group?_eq_some {group : Group} : form.group? category = some group ↔
    group.name = category ∧ ∃ front back, form.groups = front ++ group :: back ∧
      category ∉ front.map (·.name) := by
  simp [group?, List.find?_eq_some_iff_append]

theorem field_eq_error : form.field category label = .error problem ↔
    form.Lacks category label problem := by
  unfold field
  constructor
  · intro h
    cases hgroup : form.group? category with
    | none =>
      rw [hgroup] at h
      cases h
      exact .category (group?_eq_none.mp hgroup)
    | some group =>
      cases hfield : group.field? label with
      | some field => simp [hgroup, hfield] at h
      | none =>
        simp only [hgroup, hfield] at h
        cases h
        obtain ⟨hname, front, back, hgroups, hfront⟩ := group?_eq_some.mp hgroup
        exact .field front group back hgroups hname hfront (Group.field?_eq_none.mp hfield)
  · intro h
    cases h with
    | category h => rw [group?_eq_none.mpr h]
    | field front group back hgroups hname hfront h =>
      rw [group?_eq_some.mpr ⟨hname, front, back, hgroups, hfront⟩]
      dsimp only
      rw [Group.field?_eq_none.mpr h]

theorem modifyField_eq_error {f : Field → Field} :
    form.modifyField category label f = .error problem ↔ form.Lacks category label problem := by
  rw [modifyField_eq_error_iff, field_eq_error]

end Form

theorem Schema.provider?_eq_none {schema : Schema} {name : String} :
    schema.provider? name = none ↔ name ∉ schema.names := by
  unfold provider? names
  rw [List.lookup_eq_none_iff]
  grind

namespace Submission

theorem Desk.submit_of_ignored {desk : Desk} {reaction : Reaction} {now : Moment}
    (h : (desk.submit reaction now).outcome = .ignored) :
    desk.submit reaction now = ⟨.ignored, [], desk⟩ := by
  unfold Desk.submit Lifecycle.submit at h ⊢
  rcases desk.lifecycle.gate.submit_cases desk.form now with
    ⟨-, hsubmit⟩ | ⟨-, -, hsubmit⟩ | ⟨-, -, hsubmit⟩
  · rw [hsubmit]
  · rw [hsubmit] at h
    cases h
  · rw [hsubmit] at h
    cases h

end Submission

namespace Session

/-- Whether an answer is neither a problem nor that a submission was ignored. -/
def isVisible : Except Problem Answer → Bool
  | .error _ | .ok (.outcome .ignored) => false
  | _ => true

/-- The names that an operation on one field gives. -/
def Op.spot? : Op → Option (String × String)
  | .fill category label _ | .touch category label | .validate category label _ =>
    some (category, label)
  | _ => none

/-- When operations fail, and with which problem. -/
inductive Refuses (session : Session) : Op → Problem → Prop where
  | unknown {op : Op} {category label : String} {problem : Problem}
      (hspot : op.spot? = some (category, label)) (h : session.form.Lacks category label problem) :
      Refuses session op problem
  | notLoaded {name : String} (hname : name ≠ "") (h : session.slot.schema? = none) :
      Refuses session (.select name) .notLoaded
  | unknownProvider {name : String} {schema : Schema} (hname : name ≠ "")
      (hschema : session.slot.schema? = some schema) (h : name ∉ schema.names) :
      Refuses session (.select name) (.unknownProvider name)
  | alreadyLoaded {op : Op} {schema : Schema}
      (hoffer : op.offered? session.settings.policy = some schema)
      (h : session.slot.schema? ≠ none) : Refuses session op .alreadyLoaded
  | unreadable {text : String} {problem : Problem}
      (h : Schema.ofText session.settings.policy text = .error problem) :
      Refuses session (.loadText text) problem

variable {session next : Session} {op : Op} {answer : Except Problem Answer} {problem : Problem}

/-- What the surroundings are told in the steps of a run. -/
def told (steps : List Step) : List Submission.Event := steps.flatMap (·.events)

/-- The operations of a run that neither fail nor are submissions that are ignored. -/
def visibleOps (session : Session) (ops : List Op) : List Op :=
  ((ops.zip (session.run ops).1).filter (isVisible ·.2.answer)).map Prod.fst

theorem isVisible_outcome {outcome : Submission.Outcome} :
    isVisible (.ok (.outcome outcome)) = false ↔ outcome = .ignored := by
  cases outcome <;> simp [isVisible]

theorem Effect.invisible (heffect : Effect session op answer next) (h : isVisible answer = false) :
    next = session := by
  cases heffect with
  | refused => rfl
  | submitted reaction now =>
    rw [Submission.Desk.submit_of_ignored (isVisible_outcome.mp h)]
  | _ => cases h

theorem step_invisible (h : isVisible (session.step op).answer = false) :
    (session.step op).after = session ∧ (session.step op).events = [] := by
  refine ⟨(effect_step session op).invisible h, ?_⟩
  cases op with
  | submit reaction now =>
    exact congrArg (·.events) (Submission.Desk.submit_of_ignored (isVisible_outcome.mp h))
  | _ => rfl

theorem run_visibleOps (session : Session) (ops : List Op) :
    session.run (session.visibleOps ops) =
      ((session.run ops).1.filter (isVisible ·.answer), session.after ops) := by
  induction ops generalizing session with
  | nil => rfl
  | cons op ops ih =>
    simp only [visibleOps, run, List.zip_cons_cons, List.filter_cons, after_cons]
    split
    · simp only [List.map_cons, run]
      exact congrArg (fun run => ((session.step op) :: run.1, run.2)) (ih _)
    · next hinvisible =>
      obtain ⟨hafter, -⟩ := step_invisible (Bool.eq_false_iff.mpr hinvisible)
      rw [hafter]
      exact ih session

theorem told_filter (session : Session) (ops : List Op) :
    told ((session.run ops).1.filter (isVisible ·.answer)) = told (session.run ops).1 := by
  induction ops generalizing session with
  | nil => rfl
  | cons op ops ih =>
    simp only [run, List.filter_cons]
    split
    · exact congrArg ((session.step op).events ++ ·) (ih _)
    · next hinvisible =>
      obtain ⟨-, hevents⟩ := step_invisible (Bool.eq_false_iff.mpr hinvisible)
      rw [ih, told, told, List.flatMap_cons, hevents, List.nil_append]

theorem load_eq_error {schema : Schema} : (session.load schema).1 = .error problem ↔
    problem = .alreadyLoaded ∧ session.slot.schema? ≠ none := by
  unfold load Schema.Slot.fill
  cases session.slot.schema? <;> simp [eq_comm]

theorem loadText_eq_error {text : String} : (session.loadText text).1 = .error problem ↔
    Schema.ofText session.settings.policy text = .error problem ∨
      (∃ schema, Schema.ofText session.settings.policy text = .ok schema) ∧
        problem = .alreadyLoaded ∧ session.slot.schema? ≠ none := by
  unfold loadText
  cases Schema.ofText session.settings.policy text with
  | error other => simp
  | ok schema => simpa using load_eq_error

theorem update_eq_error {result : Except Problem Form} {answer : Form → Answer} :
    (session.update result answer).1 = .error problem ↔ result = .error problem := by
  cases result <;> simp [update]

theorem layOut_eq_error {name : String} : session.layOut name = .error problem ↔
    name ≠ "" ∧ (problem = .notLoaded ∧ session.slot.schema? = none ∨
      problem = .unknownProvider name ∧ ∃ schema, session.slot.schema? = some schema ∧
        name ∉ schema.names) := by
  unfold layOut Schema.Slot.provider
  by_cases hname : name = ""
  · simp [hname]
  · cases session.slot.schema? with
    | none => simp [hname, bind, Except.bind, eq_comm]
    | some schema =>
      simp only [← Schema.provider?_eq_none]
      cases hprovider : schema.provider? name with
      | none => simp [hname, hprovider, bind, Except.bind, eq_comm]
      | some provider => simp [hname, hprovider, bind, Except.bind]

theorem select_eq_error {name : String} : (session.select name).1 = .error problem ↔
    session.layOut name = .error problem := by
  unfold select
  cases session.layOut name <;> simp

theorem handle_ne_error (lifecycle? : Option Submission.Lifecycle) :
    (session.handle lifecycle?).1 ≠ .error problem := by
  intro h
  cases lifecycle? <;> cases h

theorem offered?_loadText {policy : Schema.Policy} {text : String} {schema : Schema} :
    (Op.loadText text).offered? policy = some schema ↔
      Schema.ofText policy text = .ok schema := by
  change (Schema.ofText policy text).toOption = some schema ↔ _
  cases Schema.ofText policy text <;> simp [Except.toOption]

theorem refuses_of_answer (h : (session.step op).answer = .error problem) :
    session.Refuses op problem := by
  cases op with
  | load schema =>
    obtain ⟨rfl, hloaded⟩ := load_eq_error.mp h
    exact .alreadyLoaded rfl hloaded
  | loadText text =>
    rcases loadText_eq_error.mp h with hread | ⟨⟨schema, hread⟩, rfl, hloaded⟩
    · exact .unreadable hread
    · exact .alreadyLoaded (offered?_loadText.mpr hread) hloaded
  | select name =>
    obtain ⟨hname, hproblem⟩ := layOut_eq_error.mp (select_eq_error.mp h)
    rcases hproblem with ⟨rfl, hschema⟩ | ⟨rfl, schema, hschema, hmem⟩
    · exact .notLoaded hname hschema
    · exact .unknownProvider hname hschema hmem
  | fill category label value =>
    exact .unknown rfl (Form.modifyField_eq_error.mp (update_eq_error.mp h))
  | touch category label =>
    exact .unknown rfl (Form.modifyField_eq_error.mp (update_eq_error.mp h))
  | validate category label now =>
    exact .unknown rfl (Form.modifyField_eq_error.mp (update_eq_error.mp h))
  | submit reaction now => cases h
  | complete => exact absurd h (handle_ne_error _)
  | drop => exact absurd h (handle_ne_error _)

theorem answer_of_refuses (h : session.Refuses op problem) :
    (session.step op).answer = .error problem := by
  cases h with
  | unknown hspot h =>
    have hresult (f : Form.Field → Form.Field) := (Form.modifyField_eq_error (f := f)).mpr h
    cases op with
    | fill =>
      cases hspot
      exact update_eq_error.mpr (hresult _)
    | touch =>
      cases hspot
      exact update_eq_error.mpr (hresult _)
    | validate =>
      cases hspot
      exact update_eq_error.mpr (hresult _)
    | _ => cases hspot
  | notLoaded hname h =>
    exact select_eq_error.mpr (layOut_eq_error.mpr ⟨hname, .inl ⟨rfl, h⟩⟩)
  | unknownProvider hname hschema h =>
    exact select_eq_error.mpr (layOut_eq_error.mpr ⟨hname, .inr ⟨rfl, _, hschema, h⟩⟩)
  | alreadyLoaded hoffer h =>
    cases op with
    | load => exact load_eq_error.mpr ⟨rfl, h⟩
    | loadText =>
      have hread := offered?_loadText.mp hoffer
      exact loadText_eq_error.mpr (.inr ⟨⟨_, hread⟩, rfl, h⟩)
    | _ => cases hoffer
  | unreadable h => exact loadText_eq_error.mpr (.inl h)

/-- Without the operations that fail and the submissions that are ignored a run ends in the same
session, with the same answers and events along the way. At its end, as at any time, an operation
fails just when the schema or the form lacks what it needs. -/
theorem refused_and_ignored_invisible (session : Session) (ops : List Op) :
    let steps := (session.run ops).1
    let kept := session.visibleOps ops
    session.after kept = session.after ops ∧
    (session.run kept).1 = steps.filter (isVisible ·.answer) ∧
    told (session.run kept).1 = told steps ∧
    ∀ op problem, ((session.after ops).step op).answer = .error problem ↔
      (session.after ops).Refuses op problem := by
  intro steps kept
  have hrun : session.run kept = (steps.filter (isVisible ·.answer), session.after ops) :=
    run_visibleOps session ops
  have hlast : session.after kept = session.after ops := by rw [after, hrun]
  have hsteps : (session.run kept).1 = steps.filter (isVisible ·.answer) := congrArg Prod.fst hrun
  refine ⟨hlast, hsteps, ?_, fun op problem => ⟨refuses_of_answer, answer_of_refuses⟩⟩
  rw [hsteps]
  exact told_filter session ops

end Session

end IdentityForms
