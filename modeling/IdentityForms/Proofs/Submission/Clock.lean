import IdentityForms.Proofs.Form.Placement
import IdentityForms.Proofs.Submission.Verdict
import Mathlib.Data.List.Basic

/-! What the clock has to do with submissions. A date in the past stays there and a date in the
future has always been there, so with rules of one kind acceptance moves one way; no other rule
reads the clock at all. -/
namespace IdentityForms

theorem Moment.lt_asymm {left right : Moment} (h : left < right) : ¬ right < left := by
  simp only [Moment.lt_iff] at *
  omega

namespace Rule

variable {rule : Rule} {value : String} {earlier later now : Moment}

theorem past_eq_none_iff (h : value ≠ "") : past.failure? value now = none ↔
    ∃ date, Moment.ofText? value = some date ∧ date < now := by
  simp only [failure?, failureOfNonempty?, if_neg h]
  cases Moment.ofText? value <;> simp

theorem future_eq_none_iff (h : value ≠ "") : future.failure? value now = none ↔
    ∃ date, Moment.ofText? value = some date ∧ now < date := by
  simp only [failure?, failureOfNonempty?, if_neg h]
  cases Moment.ofText? value <;> simp

theorem past_eq_badFormat_iff (h : value ≠ "") :
    past.failure? value now = some .badFormat ↔ Moment.ofText? value = none := by
  simp only [failure?, failureOfNonempty?, if_neg h]
  cases Moment.ofText? value <;> simp

theorem future_eq_badFormat_iff (h : value ≠ "") :
    future.failure? value now = some .badFormat ↔ Moment.ofText? value = none := by
  simp only [failure?, failureOfNonempty?, if_neg h]
  cases Moment.ofText? value <;> simp

/-- Only the rules on dates read the clock, and these only for a value that is not empty. -/
theorem failure?_congr (h : value = "" ∨ rule ≠ .past ∧ rule ≠ .future) (now other : Moment) :
    rule.failure? value now = rule.failure? value other := by
  unfold failure?
  rcases h with rfl | ⟨hpast, hfuture⟩
  · rfl
  · cases rule with
    | past => exact absurd rfl hpast
    | future => exact absurd rfl hfuture
    | _ => rfl

theorem failure?_eq_none_of_le (hle : earlier ≤ later) (hrule : rule ≠ .future)
    (h : rule.failure? value earlier = none) : rule.failure? value later = none := by
  by_cases hvalue : value = ""
  · rwa [failure?_congr (.inl hvalue) later earlier]
  by_cases hpast : rule = .past
  · subst hpast
    obtain ⟨date, hdate, hlt⟩ := (past_eq_none_iff hvalue).mp h
    exact (past_eq_none_iff hvalue).mpr ⟨date, hdate, Moment.lt_of_lt_of_le hlt hle⟩
  · rwa [failure?_congr (.inr ⟨hpast, hrule⟩) later earlier]

theorem failure?_eq_none_of_ge (hle : earlier ≤ later) (hrule : rule ≠ .past)
    (h : rule.failure? value later = none) : rule.failure? value earlier = none := by
  by_cases hvalue : value = ""
  · rwa [failure?_congr (.inl hvalue) earlier later]
  by_cases hfuture : rule = .future
  · subst hfuture
    obtain ⟨date, hdate, hlt⟩ := (future_eq_none_iff hvalue).mp h
    exact (future_eq_none_iff hvalue).mpr ⟨date, hdate, Moment.lt_of_le_of_lt hle hlt⟩
  · rwa [failure?_congr (.inr ⟨hrule, hfuture⟩) earlier later]

theorem not_accept_past_future {rules : List Rule} (hpast : .past ∈ rules)
    (hfuture : .future ∈ rules) (h : value ≠ "") : ¬ Accept rules value now := by
  intro haccept
  obtain ⟨date, hdate, hlt⟩ := (past_eq_none_iff h).mp (haccept .past hpast)
  obtain ⟨other, hother, hgt⟩ := (future_eq_none_iff h).mp (haccept .future hfuture)
  rw [hdate, Option.some.injEq] at hother
  subst hother
  exact Moment.lt_asymm hlt hgt

/-- A text is no date at every moment or at none. -/
theorem badFormat_of_dates (h : value ≠ "") :
    (∀ now, past.failure? value now = some .badFormat ∧
      future.failure? value now = some .badFormat) ∨
    (∀ now, past.failure? value now ≠ some .badFormat ∧
      future.failure? value now ≠ some .badFormat) := by
  by_cases hdate : Moment.ofText? value = none
  · left
    intro now
    exact ⟨(past_eq_badFormat_iff h).mpr hdate, (future_eq_badFormat_iff h).mpr hdate⟩
  · right
    intro now
    exact ⟨mt (past_eq_badFormat_iff h).mp hdate, mt (future_eq_badFormat_iff h).mp hdate⟩

theorem failures_congr_now {rules : List Rule} (hpast : .past ∉ rules) (hfuture : .future ∉ rules)
    (value : String) (now other : Moment) :
    failures rules value now = failures rules value other := by
  unfold failures
  congr 1
  apply List.filterMap_congr
  intro rule hrule
  exact failure?_congr (.inr ⟨ne_of_mem_of_not_mem hrule hpast,
    ne_of_mem_of_not_mem hrule hfuture⟩) now other

end Rule

namespace Form

/-- Whether no field of a form carries a rule. -/
def Omits (form : Form) (rule : Rule) : Prop := ∀ field ∈ form.fields, rule ∉ field.rules

theorem mapFields_congr {form : Form} {f g : Field → Field}
    (h : ∀ field ∈ form.fields, f field = g field) : form.mapFields f = form.mapFields g := by
  obtain ⟨hselector, hgroups⟩ := forall_mem_fields.mp h
  unfold mapFields
  rw [hselector, List.map_congr_left]
  intro group hgroup
  unfold Group.mapFields
  rw [List.map_congr_left (hgroups group hgroup)]

theorem checked_congr {form : Form} (hpast : form.Omits .past) (hfuture : form.Omits .future)
    (now other : Moment) : form.checked now = form.checked other := by
  unfold checked validate touchAll
  rw [mapFields_mapFields, mapFields_mapFields]
  apply mapFields_congr
  intro field hfield
  have hfailures := Rule.failures_congr_now (hpast field hfield) (hfuture field hfield)
    field.entry.value now other
  unfold Field.validate
  exact congrArg (fun failures => { field.touch with entry := { field.touch.entry with failures } })
    hfailures

end Form

namespace Submission

/-- An outcome with another date of acceptance, if it has one. -/
def Outcome.dated (now : Moment) : Outcome → Outcome
  | accepted receipt => accepted { receipt with acceptedAt := now }
  | other => other

namespace Gate

def Accepts (gate : Gate) (form : Form) (now : Moment) : Prop :=
  ∃ receipt, (gate.submit form now).outcome = .accepted receipt

variable {gate : Gate} {form : Form} {now : Moment}

theorem accepts_iff : gate.Accepts form now ↔ ¬ gate.phase.isEngaged ∧
    ∀ field ∈ form.fields, Rule.Accept field.rules field.entry.value now := by
  rw [← Form.invalidCount_checked]
  unfold Accepts
  rcases gate.submit_cases form now with
    ⟨hbusy, h⟩ | ⟨hfree, hinvalid, h⟩ | ⟨hfree, hvalid, h⟩
  · simp [h, hbusy]
  · rw [h]
    simp [reject, hinvalid]
  · rw [h]
    simp [accept, hfree, hvalid]

theorem rejects_of_not_accepts (hfree : ¬ gate.phase.isEngaged) (h : ¬ gate.Accepts form now) :
    ∃ paths, (gate.submit form now).outcome = .rejected paths := by
  rcases gate.submit_cases form now with ⟨hbusy, -⟩ | ⟨-, -, hsubmit⟩ | ⟨-, -, hsubmit⟩
  · exact absurd hbusy hfree
  · exact ⟨_, congrArg (·.outcome) hsubmit⟩
  · exact absurd ⟨_, congrArg (·.outcome) hsubmit⟩ h

/-- A form that is checked alike at all moments meets the same end at all of them, but for the date
on its receipt. -/
theorem submit_congr (hchecked : ∀ now other, form.checked now = form.checked other)
    (now other : Moment) :
    (gate.submit form other).outcome = (gate.submit form now).outcome.dated other ∧
    (gate.submit form other).events = (gate.submit form now).events ∧
    (gate.submit form other).after.2 = (gate.submit form now).after.2 := by
  have hsame : form.checked other = form.checked now := hchecked other now
  rcases gate.submit_cases form now with
    ⟨hbusy, h⟩ | ⟨hfree, hinvalid, h⟩ | ⟨hfree, hvalid, h⟩
  · rw [h, submit_of_isEngaged hbusy]
    exact ⟨rfl, rfl, rfl⟩
  · rw [h, submit_of_invalid form other hfree (hsame ▸ Nat.pos_of_ne_zero hinvalid), hsame]
    exact ⟨rfl, rfl, rfl⟩
  · rw [h, submit_of_valid form other hfree (hsame ▸ Nat.not_lt.mpr (Nat.le_of_eq hvalid)), hsame]
    exact ⟨rfl, rfl, rfl⟩

/-- What is accepted stays acceptable as time goes on if no field asks for a date in the future, and
was acceptable before if none asks for one in the past. If none asks for either, time changes
nothing but the date on a receipt. A value that has to be both is rejected at every moment. Whether
a text is a date at all is the same for both rules and for all moments. -/
theorem outcomes_follow_clock (gate : Gate) (form : Form) {earlier later : Moment}
    (hle : earlier ≤ later) :
    (form.Omits .future → gate.Accepts form earlier → gate.Accepts form later) ∧
    (form.Omits .past → gate.Accepts form later → gate.Accepts form earlier) ∧
    (form.Omits .past → form.Omits .future →
      (gate.submit form later).outcome = (gate.submit form earlier).outcome.dated later ∧
      (gate.submit form later).events = (gate.submit form earlier).events ∧
      (gate.submit form later).after.2 = (gate.submit form earlier).after.2) ∧
    (∀ field ∈ form.fields, .past ∈ field.rules → .future ∈ field.rules →
      field.entry.value ≠ "" → ¬ gate.phase.isEngaged →
      ∀ now, ∃ paths, (gate.submit form now).outcome = .rejected paths) ∧
    (∀ value : String, value ≠ "" →
      (∀ now, Rule.past.failure? value now = some .badFormat ∧
        Rule.future.failure? value now = some .badFormat) ∨
      (∀ now, Rule.past.failure? value now ≠ some .badFormat ∧
        Rule.future.failure? value now ≠ some .badFormat)) := by
  refine ⟨?later, ?earlier, ?neither, ?both, fun value => Rule.badFormat_of_dates⟩
  case later =>
    intro hlacks haccepts
    obtain ⟨hfree, haccept⟩ := accepts_iff.mp haccepts
    refine accepts_iff.mpr ⟨hfree, ?_⟩
    intro field hfield rule hrule
    have hne : rule ≠ .future := ne_of_mem_of_not_mem hrule (hlacks field hfield)
    exact Rule.failure?_eq_none_of_le hle hne (haccept field hfield rule hrule)
  case earlier =>
    intro hlacks haccepts
    obtain ⟨hfree, haccept⟩ := accepts_iff.mp haccepts
    refine accepts_iff.mpr ⟨hfree, ?_⟩
    intro field hfield rule hrule
    have hne : rule ≠ .past := ne_of_mem_of_not_mem hrule (hlacks field hfield)
    exact Rule.failure?_eq_none_of_ge hle hne (haccept field hfield rule hrule)
  case neither =>
    intro hpast hfuture
    exact submit_congr (Form.checked_congr hpast hfuture) earlier later
  case both =>
    intro field hfield hpast hfuture hvalue hfree now
    apply rejects_of_not_accepts hfree
    intro haccepts
    exact Rule.not_accept_past_future hpast hfuture hvalue
      ((accepts_iff.mp haccepts).2 field hfield)

/-- A form with one date, which lies at the start of a leap second. -/
def leapForm (rules : List Rule) : Form :=
  { Form.forProvider "A" with
    groups := [⟨"P", [⟨"D", none, rules, { value := "1970-01-01T23:59:60" }⟩]⟩] }

theorem outcomes_follow_clock_leap :
    (⟨86399, 1000000001⟩ : Moment) ≤ ⟨86400, 0⟩ ∧
    let gate := Gate.ofSettings {}
    (leapForm [.past]).Omits .future ∧ gate.Accepts (leapForm [.past]) ⟨86399, 1000000001⟩ ∧
    gate.Accepts (leapForm [.past]) ⟨86400, 0⟩ ∧ ¬ gate.Accepts (leapForm [.future]) ⟨86400, 0⟩ ∧
    ∃ paths, (gate.submit (leapForm [.past, .future]) ⟨86399, 1000000000⟩).outcome =
      .rejected paths := by
  have hle : (⟨86399, 1000000001⟩ : Moment) ≤ ⟨86400, 0⟩ := by decide
  have hlacks : (leapForm [.past]).Omits .future := by
    unfold Form.Omits
    decide
  have haccepts : (ofSettings {}).Accepts (leapForm [.past]) ⟨86399, 1000000001⟩ := by
    refine accepts_iff.mpr ⟨by decide, ?_⟩
    unfold Rule.Accept
    decide +kernel
  refine ⟨hle, hlacks, haccepts, ?_, ?_, ?_⟩
  · exact (outcomes_follow_clock _ _ hle).1 hlacks haccepts
  · rw [accepts_iff]
    unfold Rule.Accept
    decide +kernel
  · exact (outcomes_follow_clock _ _ hle).2.2.2.1 ⟨"D", none, [.past, .future],
      { value := "1970-01-01T23:59:60" }⟩ (by decide) (by decide) (by decide) (by decide)
      (by decide) ⟨86399, 1000000000⟩

end Gate

end Submission

end IdentityForms
