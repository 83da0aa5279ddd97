import IdentityForms.Proofs.Form.Pristine
import IdentityForms.Proofs.Session.Run
import IdentityForms.Proofs.Submission.Verdict

/-! The form of a session is at all times the one laid out for the chosen provider, up to what
has been entered in it. It rests on the schema, which does not change once it is loaded. -/
namespace IdentityForms.Session

def loadedIn? (policy : Schema.Policy) (op : Op) (step : Step) : Option Schema :=
  if step.answer.isOk then op.offered? policy else none

/-- The schema that was loaded first in a run with the given steps. -/
def firstLoaded? (policy : Schema.Policy) (ops : List Op) (steps : List Step) : Option Schema :=
  (ops.zip steps).findSome? fun (op, step) => loadedIn? policy op step

/-- Whether the form is bare, or is that of a provider of the schema apart from its entries. -/
def Mirrors (session : Session) : Prop :=
  session.form.pristine = .blank ∨ ∃ (name : String) (schema : Schema) (provider : Schema.Provider),
    name ≠ "" ∧ session.slot.schema? = some schema ∧ schema.provider? name = some provider ∧
      session.form.pristine = (provider.layOut name).form

variable {session next : Session} {op : Op} {answer : Except Problem Answer}

theorem Effect.settings (h : Effect session op answer next) : next.settings = session.settings := by
  cases h <;> rfl

theorem schema?_step (session : Session) (op : Op) : (session.step op).after.slot.schema? =
    session.slot.schema?.or (loadedIn? session.settings.policy op (session.step op)) := by
  unfold loadedIn?
  generalize hanswer : (session.step op).answer = answer
  generalize hnext : (session.step op).after = next
  have h : Effect session op answer next := hanswer ▸ hnext ▸ effect_step session op
  cases h with
  | refused => simp [Except.isOk, Except.toBool]
  | loaded _ schema hoffer hempty => simp [Except.isOk, Except.toBool, hoffer, hempty]
  | _ => simp [Op.offered?, withForm, withLifecycle]

theorem schema?_after (session : Session) (ops : List Op) : (session.after ops).slot.schema? =
    session.slot.schema?.or (firstLoaded? session.settings.policy ops (session.run ops).1) := by
  induction ops generalizing session with
  | nil => simp [firstLoaded?]
  | cons op ops ih =>
    have hsettings := (effect_step session op).settings
    rw [after_cons, ih, schema?_step, hsettings, Option.or_assoc]
    congr 1
    simp only [firstLoaded?, run, List.zip_cons_cons, List.findSome?_cons]
    cases loadedIn? session.settings.policy op (session.step op) <;> rfl

theorem schema?_after_of_some {schema : Schema} (h : session.slot.schema? = some schema)
    (ops : List Op) : (session.after ops).slot.schema? = some schema := by
  rw [schema?_after, h, Option.some_or]

theorem Effect.schema?_of_some (heffect : Effect session op answer next) {schema : Schema}
    (h : session.slot.schema? = some schema) : next.slot.schema? = some schema := by
  cases heffect with
  | loaded _ _ _ hempty => exact absurd (h.symm.trans hempty) (by simp)
  | _ => exact h

theorem layOut_eq_ok {name : String} {layout : Layout} : session.layOut name = .ok layout ↔
    name = "" ∧ layout = ⟨.blank, []⟩ ∨ ∃ (schema : Schema) (provider : Schema.Provider),
      name ≠ "" ∧ session.slot.schema? = some schema ∧ schema.provider? name = some provider ∧
        layout = provider.layOut name := by
  unfold layOut
  by_cases hname : name = ""
  · simp [hname, eq_comm]
  · cases hschema : session.slot.schema? with
    | none => simp [hname, Schema.Slot.provider, hschema, bind, Except.bind]
    | some schema =>
      cases hprovider : schema.provider? name with
      | none => simp [hname, Schema.Slot.provider, hschema, hprovider, bind, Except.bind]
      | some provider =>
        simp [hname, Schema.Slot.provider, hschema, hprovider, bind, Except.bind, eq_comm]

/-- Of what a session knows, laying out a form reads the schema alone. -/
theorem layOut_congr {other : Session} (h : other.slot.schema? = session.slot.schema?)
    (name : String) : other.layOut name = session.layOut name := by
  unfold layOut Schema.Slot.provider
  rw [h]

theorem Mirrors.of_pristine (h : session.Mirrors)
    (hschema : ∀ schema, session.slot.schema? = some schema → next.slot.schema? = some schema)
    (hform : next.form.pristine = session.form.pristine) : next.Mirrors := by
  unfold Mirrors
  rw [hform]
  apply h.imp_right
  rintro ⟨name, schema, provider, hname, hloaded, hprovider, hpristine⟩
  exact ⟨name, schema, provider, hname, hschema schema hloaded, hprovider, hpristine⟩

theorem pristine_submit (desk : Submission.Desk) (reaction : Submission.Reaction) (now : Moment) :
    (desk.submit reaction now).after.form.pristine = desk.form.pristine := by
  rw [desk.form_submit]
  split
  · rfl
  · exact desk.form.pristine_checked now

theorem Mirrors.effect (h : session.Mirrors) (heffect : Effect session op answer next) :
    next.Mirrors := by
  have hschema (schema : Schema) (hloaded : session.slot.schema? = some schema) :
      next.slot.schema? = some schema := heffect.schema?_of_some hloaded
  cases heffect with
  | selected name layout hlayout =>
    rcases layOut_eq_ok.mp hlayout with
      ⟨-, rfl⟩ | ⟨schema, provider, hname, hloaded, hprovider, rfl⟩
    · exact .inl rfl
    · exact .inr ⟨name, schema, provider, hname, hloaded, hprovider, provider.pristine_layOut name⟩
  | filled _ _ value form hform =>
    exact h.of_pristine hschema (Form.pristine_modifyField (Form.Field.cleared_fill · value) hform)
  | touched _ _ form hform =>
    exact h.of_pristine hschema (Form.pristine_modifyField Form.Field.cleared_touch hform)
  | validated _ _ now form hform =>
    exact h.of_pristine hschema
      (Form.pristine_modifyField (Form.Field.cleared_validate · now) hform)
  | submitted reaction now =>
    exact h.of_pristine hschema (pristine_submit session.desk reaction now)
  | _ => exact h.of_pristine hschema rfl

theorem mirrors_after (settings : Settings) (ops : List Op) :
    ((start settings).after ops).Mirrors :=
  after_induction ops (.inl rfl) Mirrors.effect

theorem Mirrors.rules_selector (h : session.Mirrors) :
    session.form.selector.rules = [.required] := by
  rcases h with h | ⟨_, _, _, -, -, -, h⟩
  · exact congrArg (·.selector.rules) h
  · exact congrArg (·.selector.rules) h

theorem Mirrors.cases (h : session.Mirrors) :
    session.form.provider? = none ∧ session.form.selector.entry.value = "" ∧
        session.form.groups = [] ∨
      ∃ (name : String) (schema : Schema) (provider : Schema.Provider), name ≠ "" ∧
        session.form.provider? = some name ∧ session.form.selector.entry.value = name ∧
        session.slot.schema? = some schema ∧ schema.provider? name = some provider ∧
        session.form.pristine = (provider.layOut name).form := by
  rcases h with h | ⟨name, schema, provider, hname, hloaded, hprovider, h⟩
  · have hgroups : session.form.groups.map Form.Group.cleared = [] := congrArg (·.groups) h
    exact .inl ⟨congrArg (·.provider?) h, congrArg (·.selector.entry.value) h,
      List.map_eq_nil_iff.mp hgroups⟩
  · have hchosen : session.form.provider? = (provider.layOut name).form.provider? :=
      congrArg (·.provider?) h
    refine .inr ⟨name, schema, provider, hname, ?_, congrArg (·.selector.entry.value) h, hloaded,
      hprovider, h⟩
    rw [hchosen]
    exact if_neg hname

/-- After any run the schema is the one that was loaded first, for good, and the form is bare or
is that of a provider of the schema apart from its entries. What a choice of provider lays out
depends on the schema and the name alone. -/
theorem form_mirrors_provider (settings : Settings) (ops : List Op) :
    let session := (start settings).after ops
    session.slot.schema? = firstLoaded? settings.policy ops ((start settings).run ops).1 ∧
    (∀ schema more, session.slot.schema? = some schema →
      (session.after more).slot.schema? = some schema) ∧
    (session.form.provider? = none ∧ session.form.selector.entry.value = "" ∧
        session.form.groups = [] ∨
      ∃ (name : String) (schema : Schema) (provider : Schema.Provider), name ≠ "" ∧
        session.form.provider? = some name ∧ session.form.selector.entry.value = name ∧
        session.slot.schema? = some schema ∧ schema.provider? name = some provider ∧
        session.form.pristine = (provider.layOut name).form) ∧
    session.form.selector.rules = [.required] ∧
    (∀ settings' ops' name answer, let other := (start settings').after ops'
      other.slot.schema? = session.slot.schema? →
      (session.step (.select name)).answer = .ok answer →
      (other.step (.select name)).answer = .ok answer ∧
        (other.step (.select name)).after.form = (session.step (.select name)).after.form) := by
  intro session
  have hmirrors : session.Mirrors := mirrors_after settings ops
  refine ⟨?first, ?kept, hmirrors.cases, hmirrors.rules_selector, ?select⟩
  case first => exact (schema?_after (start settings) ops).trans (Option.none_or ..)
  case kept =>
    intro schema more h
    exact schema?_after_of_some h more
  case select =>
    intro settings' ops' name answer other hschema hanswer
    have hlayOut : other.layOut name = session.layOut name := layOut_congr hschema name
    change (session.select name).1 = .ok answer at hanswer
    change (other.select name).1 = .ok answer ∧
      (other.select name).2.form = (session.select name).2.form
    unfold select at hanswer ⊢
    rw [hlayOut]
    cases hresult : session.layOut name with
    | error problem =>
      rw [hresult] at hanswer
      cases hanswer
    | ok layout =>
      rw [hresult] at hanswer
      exact ⟨hanswer, rfl⟩

end IdentityForms.Session
