import IdentityForms.Proofs.Form.Addressing
import IdentityForms.Proofs.Session.Mirror
import IdentityForms.Proofs.Submission.Completion
import Mathlib

/-! Which submissions of a session are accepted, told by the schema and the values that stand in
the form. What earlier validations have left there and the way it came about play no part. -/
namespace IdentityForms

open Submission

namespace Session

/-- The name of the chosen provider and what the schema says of it. -/
def chosen? (session : Session) : Option (String × Schema.Provider) := do
  let name ← session.form.provider?
  let schema ← session.slot.schema?
  let provider ← schema.provider? name
  some (name, provider)

/-- Whether a provider is chosen and whatever it asks for has a value that the rules accept. -/
def Ready (session : Session) (now : Moment) : Prop :=
  ∃ (name : String) (provider : Schema.Provider), session.chosen? = some (name, provider) ∧
    ∀ category ∈ provider.categories, ∀ spec ∈ category.fields, ∃ value,
      session.form.value? category.name spec.label = some value ∧
        Rule.Accept spec.rules value now

variable {session next : Session} {op : Op} {answer : Except Problem Answer}

theorem Effect.sound (heffect : Effect session op answer next)
    (h : session.desk.lifecycle.Sound) : next.desk.lifecycle.Sound := by
  cases heffect with
  | submitted reaction now => exact h.perform (.submit reaction session.form now)
  | completed lifecycle hcomplete =>
    have hperform : session.desk.lifecycle.perform .complete = lifecycle := by
      rw [Lifecycle.perform, hcomplete, Option.getD_some]
    exact hperform ▸ h.perform .complete
  | dropped lifecycle hdrop =>
    have hperform : session.desk.lifecycle.perform .drop = lifecycle := by
      rw [Lifecycle.perform, hdrop, Option.getD_some]
    exact hperform ▸ h.perform .drop
  | _ => exact h

theorem sound_after (settings : Settings) (ops : List Op) :
    ((start settings).after ops).desk.lifecycle.Sound :=
  after_induction (motive := fun session => session.desk.lifecycle.Sound) ops
    (Lifecycle.sound_ofSettings settings) fun h heffect => heffect.sound h

theorem chosen?_eq_some {name : String} {provider : Schema.Provider} :
    session.chosen? = some (name, provider) ↔ session.form.provider? = some name ∧
      ∃ schema, session.slot.schema? = some schema ∧ schema.provider? name = some provider := by
  simp [chosen?, Option.bind_eq_some_iff]

/-- If the schema was read from a text, names address the fields of the chosen provider without
doubt. -/
theorem distinct_of_chosen? (hread : ∀ schema, session.slot.schema? = some schema →
      ∃ policy text, Schema.ofText policy text = .ok schema)
    {name : String} {provider : Schema.Provider}
    (hchosen : session.chosen? = some (name, provider)) : provider.Distinct := by
  obtain ⟨-, schema, hschema, hprovider⟩ := chosen?_eq_some.mp hchosen
  obtain ⟨policy, text, htext⟩ := hread schema hschema
  exact Schema.distinct_of_ofText htext hprovider

theorem Mirrors.chosen?_cases (h : session.Mirrors) :
    session.chosen? = none ∧ session.form.selector.entry.value = "" ∨
      ∃ (name : String) (provider : Schema.Provider), name ≠ "" ∧
        session.chosen? = some (name, provider) ∧ session.form.selector.entry.value = name ∧
        session.form.Follows provider := by
  rcases h.cases with ⟨hnone, hvalue, -⟩ |
    ⟨name, schema, provider, hname, hchosen, hvalue, hschema, hprovider, hpristine⟩
  · refine .inl ⟨?_, hvalue⟩
    rw [chosen?, hnone]
    rfl
  · have hfollows : session.form.groups.map Form.Group.cleared =
        (provider.layOut name).form.groups := congrArg (·.groups) hpristine
    exact .inr ⟨name, provider, hname, chosen?_eq_some.mpr ⟨hchosen, schema, hschema, hprovider⟩,
      hvalue, hfollows⟩

theorem Mirrors.follows (h : session.Mirrors) {name : String} {provider : Schema.Provider}
    (hchosen : session.chosen? = some (name, provider)) :
    session.form.selector.entry.value = name ∧ session.form.Follows provider := by
  rcases h.chosen?_cases with ⟨hnone, -⟩ | ⟨name', provider', -, hchosen', hvalue, hfollows⟩
  · rw [hnone] at hchosen
    cases hchosen
  · rw [hchosen'] at hchosen
    cases hchosen
    exact ⟨hvalue, hfollows⟩

theorem Mirrors.invalidCount_eq_zero (h : session.Mirrors)
    (hdistinct : ∀ name provider, session.chosen? = some (name, provider) → provider.Distinct)
    (now : Moment) : (session.form.checked now).invalidCount = 0 ↔ session.Ready now := by
  rw [Form.invalidCount_checked, Form.forall_mem_fields, h.rules_selector, Rule.accept_required]
  rcases h.chosen?_cases with ⟨hnone, hvalue⟩ | ⟨name, provider, hname, hchosen, hvalue, hfollows⟩
  · simp [Ready, hnone, hvalue]
  · rw [hfollows.forall_fields (hdistinct name provider hchosen) (Rule.Accept · · now), hvalue]
    constructor
    · intro hfields
      exact ⟨name, provider, hchosen, hfields.2⟩
    · rintro ⟨name', provider', hchosen', hfields⟩
      rw [hchosen] at hchosen'
      cases hchosen'
      exact ⟨hname, hfields⟩

theorem Mirrors.receipt (h : session.Mirrors)
    (hdistinct : ∀ name provider, session.chosen? = some (name, provider) → provider.Distinct)
    {now : Moment} (hready : session.Ready now) (selectorKey : String) :
    let receipt := Receipt.ofForm (session.form.checked now) selectorKey now
    ∃ provider, session.chosen? = some (receipt.provider, provider) ∧
      (receipt.groups.map fun (category, values) =>
        (category, values.map fun (label, value) => (label, some value))) =
        provider.categories.map fun category => (category.name,
          category.arranged.map fun spec =>
            (spec.label, session.form.value? category.name spec.label)) := by
  intro receipt
  obtain ⟨name, provider, hchosen, -⟩ := hready
  obtain ⟨hvalue, hfollows⟩ := h.follows hchosen
  have hprovider : receipt.provider = name := hvalue
  refine ⟨provider, hprovider ▸ hchosen, ?_⟩
  rw [← hfollows.map_groups (hdistinct name provider hchosen), Receipt.groups_ofForm_checked,
    List.map_map]
  simp [Function.comp_def]

/-- Unless a submission is in flight, a session with a schema read from a text accepts one just if
it is ready. Then the receipt tells what stands in the form, category by category. -/
theorem accepts_iff_ready (settings : Settings) (ops : List Op) (reaction : Reaction)
    (now : Moment)
    (hread : ∀ schema, ((start settings).after ops).slot.schema? = some schema →
      ∃ policy text, Schema.ofText policy text = .ok schema)
    (hfree : ((start settings).after ops).gate.phase ≠ .transitioning) :
    let session := (start settings).after ops
    let step := session.step (.submit reaction now)
    ((∃ receipt, step.answer = .ok (.outcome (.accepted receipt))) ↔ session.Ready now) ∧
    (∀ receipt, step.answer = .ok (.outcome (.accepted receipt)) →
      step.after.gate.receipt? = some receipt ∧ receipt.acceptedAt = now ∧
      (∃ provider, session.chosen? = some (receipt.provider, provider) ∧
        (∀ category ∈ provider.categories, category.arranged.Perm category.fields) ∧
        (receipt.groups.map fun (category, values) =>
          (category, values.map fun (label, value) => (label, some value))) =
          provider.categories.map fun category => (category.name,
            category.arranged.map fun spec =>
              (spec.label, session.form.value? category.name spec.label)))) ∧
    (¬ session.Ready now → (∃ paths, step.answer = .ok (.outcome (.rejected paths))) ∧
      step.after.gate.receipt? = session.gate.receipt?) := by
  intro session step
  have hmirrors : session.Mirrors := mirrors_after settings ops
  have hsound : session.desk.lifecycle.Sound := sound_after settings ops
  have hbusy : ¬ session.gate.phase.isEngaged := fun hengaged =>
    hfree (hsound.isEngaged_iff.mp hengaged)
  have hdistinct (name : String) (provider : Schema.Provider)
      (hchosen : session.chosen? = some (name, provider)) : provider.Distinct := by
    obtain ⟨-, schema, hschema, hprovider⟩ := chosen?_eq_some.mp hchosen
    obtain ⟨policy, text, htext⟩ := hread schema hschema
    exact Schema.distinct_of_ofText htext hprovider
  have hready : (session.form.checked now).invalidCount = 0 ↔ session.Ready now :=
    hmirrors.invalidCount_eq_zero hdistinct now
  have hanswer : step.answer = .ok (.outcome (session.desk.submit reaction now).outcome) := rfl
  rcases session.desk.submit_cases reaction now hbusy with
    ⟨hinvalid, houtcome, hreceipt⟩ | ⟨hvalid, receipt, rfl, houtcome, hreceipt⟩
  · have hunready : ¬ session.Ready now := fun h => hinvalid (hready.mpr h)
    rw [houtcome] at hanswer
    have hunaccepted (receipt : Receipt) : step.answer ≠ .ok (.outcome (.accepted receipt)) := by
      rw [hanswer]
      exact fun haccepted => nomatch haccepted
    exact ⟨iff_of_false (fun ⟨receipt, h⟩ => hunaccepted receipt h) hunready,
      fun receipt h => absurd h (hunaccepted receipt), fun _ => ⟨⟨_, hanswer⟩, hreceipt⟩⟩
  · have h : session.Ready now := hready.mp hvalid
    rw [houtcome] at hanswer
    refine ⟨iff_of_true ⟨_, hanswer⟩ h, ?_, fun hunready => absurd h hunready⟩
    intro receipt haccepted
    rw [hanswer] at haccepted
    cases haccepted
    obtain ⟨provider, hchosen, hgroups⟩ := hmirrors.receipt hdistinct h session.gate.selectorKey
    exact ⟨hreceipt, rfl, provider, hchosen, fun category _ => category.arranged_perm, hgroups⟩

def filledIn : Session := (start {}).after
  [.loadText "\x7b\"A\":\x7b\"P\":[\x7b\"label\":\"N\",\"required\":true\x7d]\x7d\x7d",
    .select "A", .fill "P" "N" "Ann"]

set_option maxRecDepth 2000 in
theorem accepts_filledIn : filledIn.Ready ⟨0, 0⟩ ∧
    (filledIn.step (.submit .hold ⟨0, 0⟩)).after.gate.receipt? =
      some ⟨"selectedProvider", "A", [("P", [("N", "Ann")])], ⟨0, 0⟩⟩ := by
  have hphase : filledIn.gate.phase = .idle := by cbv
  have hschema : filledIn.slot.schema? =
      some ⟨[("A", ⟨[⟨"P", [⟨"N", none, true, none⟩]⟩]⟩)]⟩ := by cbv
  have houtcome : (filledIn.desk.submit .hold ⟨0, 0⟩).outcome =
      .accepted ⟨"selectedProvider", "A", [("P", [("N", "Ann")])], ⟨0, 0⟩⟩ := by cbv
  have hread (schema : Schema) (h : filledIn.slot.schema? = some schema) :
      ∃ policy text, Schema.ofText policy text = .ok schema := by
    rw [hschema] at h
    cases h
    refine ⟨.lenient, "\x7b\"A\":\x7b\"P\":[\x7b\"label\":\"N\",\"required\":true\x7d]\x7d\x7d", ?_⟩
    cbv
  have hfree : filledIn.gate.phase ≠ .transitioning := by
    rw [hphase]
    decide
  have h := accepts_iff_ready {} _ .hold ⟨0, 0⟩ hread hfree
  have hanswer : (filledIn.step (.submit .hold ⟨0, 0⟩)).answer = _ :=
    congrArg (Except.ok ∘ Answer.outcome) houtcome
  exact ⟨h.1.mp ⟨_, hanswer⟩, (h.2.1 _ hanswer).1⟩

end Session

end IdentityForms
