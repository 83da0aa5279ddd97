import IdentityForms.Proofs.Session.Acceptance
import IdentityForms.Proofs.Submission.Receipt

/-! What the object made of a receipt tells of the form that was accepted. Every value can be read
back. So can the provider, unless the key of the selector is the name of a group. -/
namespace IdentityForms

open Submission

namespace Session

variable {session next : Session} {op : Op} {answer : Except Problem Answer}

theorem Effect.selectorKey (heffect : Effect session op answer next) :
    next.gate.selectorKey = session.gate.selectorKey := by
  cases heffect with
  | submitted reaction now => exact session.desk.selectorKey_submit reaction now
  | completed lifecycle h =>
    obtain ⟨-, rfl⟩ := Lifecycle.complete?_eq_some.mp h
    rfl
  | dropped lifecycle h =>
    obtain ⟨-, rfl⟩ := Lifecycle.drop?_eq_some.mp h
    rfl
  | _ => rfl

theorem selectorKey_after (settings : Settings) (ops : List Op) :
    ((start settings).after ops).gate.selectorKey = settings.selectorKey :=
  after_induction (motive := fun session => session.gate.selectorKey = settings.selectorKey) ops rfl
    fun h heffect => heffect.selectorKey.trans h

/-- The receipt of a session with a schema read from a text has the chosen provider and all values
in the order of the form. The object made of it lists just these, and gives the provider back, if
and only if the key of the selector is not the name of a group. A group of that name takes the place
of the provider, while every value can be read back in any case. -/
theorem receipt_readable (settings : Settings) (ops : List Op) (reaction : Reaction) (now : Moment)
    {receipt : Receipt}
    (hread : ∀ schema, ((start settings).after ops).slot.schema? = some schema →
      ∃ policy text, Schema.ofText policy text = .ok schema)
    (haccepted : (((start settings).after ops).step (.submit reaction now)).answer =
      .ok (.outcome (.accepted receipt))) :
    let session := (start settings).after ops
    receipt.selectorKey = settings.selectorKey ∧
    session.form.provider? = some receipt.provider ∧
    (receipt.groups = session.form.groups.map fun group =>
      (group.name, group.fields.map fun field => (field.label, field.entry.value))) ∧
    (receipt.toJson = receipt.listing ↔ settings.selectorKey ∉ receipt.names) ∧
    (receipt.toJson.member? settings.selectorKey = some (.string receipt.provider) ↔
      settings.selectorKey ∉ receipt.names) ∧
    (∀ group ∈ receipt.groups, ∀ entry ∈ group.2,
      (receipt.toJson.member? group.1).bind (Json.member? entry.1) = some (.string entry.2)) := by
  intro session
  have hmirrors : session.Mirrors := mirrors_after settings ops
  have hproviders (name : String) (provider : Schema.Provider)
      (hchosen : session.chosen? = some (name, provider)) : provider.Distinct :=
    distinct_of_chosen? hread hchosen
  have houtcome : (session.gate.submit session.form now).outcome = .accepted receipt :=
    Answer.outcome.inj (Except.ok.inj haccepted)
  obtain ⟨hvalid, hreceipt⟩ := Gate.submit_of_accepted session.form now houtcome
  -- The selector is required, so the form that was accepted is that of a provider.
  obtain ⟨name, provider, hchosen, -⟩ := (hmirrors.invalidCount_eq_zero hproviders now).mp hvalid
  obtain ⟨hvalue, hfollows⟩ := hmirrors.follows hchosen
  have hkey : receipt.selectorKey = settings.selectorKey := by
    rw [hreceipt]
    exact selectorKey_after settings ops
  have hprovider : receipt.provider = name := by
    rw [hreceipt]
    exact hvalue
  have hgroups : receipt.groups = session.form.groups.map fun group =>
      (group.name, group.fields.map fun field => (field.label, field.entry.value)) := by
    rw [hreceipt]
    exact Receipt.groups_ofForm_checked session.form _ now
  have hdistinct : receipt.Distinct := by
    rw [hreceipt]
    exact Receipt.distinct_ofForm (hfollows.distinct (hproviders name provider hchosen)) _ now
  refine ⟨hkey, ?provider, hgroups, ?listing, ?selector, ?values⟩
  case provider =>
    rw [hprovider]
    exact (chosen?_eq_some.mp hchosen).1
  case listing =>
    rw [← hkey]
    exact hdistinct.toJson_eq_listing_iff
  case selector =>
    rw [← hkey]
    exact hdistinct.member?_selectorKey_iff
  case values =>
    intro group hgroup entry hentry
    exact hdistinct.member?_value hgroup hentry

/-- A schema in which a category has the name that the key of the selector has by default. -/
def overwritingText : String :=
  "\x7b\"A\":\x7b\"selectedProvider\":[\x7b\"label\":\"N\",\"order\":1\x7d]\x7d\x7d"

def overwritten : Session := (start {}).after
  [.loadText overwritingText, .select "A", .fill "selectedProvider" "N" "1"]

theorem receipt_overwritten :
    let receipt : Receipt := ⟨"selectedProvider", "A", [("selectedProvider", [("N", "1")])], ⟨0, 0⟩⟩
    (overwritten.step (.submit .hold ⟨0, 0⟩)).answer = .ok (.outcome (.accepted receipt)) ∧
    receipt.toJson = .object [("selectedProvider", .object [("N", .string "1")])] ∧
    receipt.toJson ≠ receipt.listing ∧
    receipt.toJson.member? "selectedProvider" ≠ some (.string "A") ∧
    (receipt.toJson.member? "selectedProvider").bind (Json.member? "N") = some (.string "1") := by
  intro receipt
  have hschema : overwritten.slot.schema? =
      some ⟨[("A", ⟨[⟨"selectedProvider", [⟨"N", some 1, false, none⟩]⟩]⟩)]⟩ := by decide +kernel
  have houtcome : (overwritten.desk.submit .hold ⟨0, 0⟩).outcome = .accepted receipt := by
    decide +kernel
  have hread (schema : Schema) (h : overwritten.slot.schema? = some schema) :
      ∃ policy text, Schema.ofText policy text = .ok schema := by
    rw [hschema] at h
    cases h
    refine ⟨.lenient, overwritingText, ?_⟩
    decide +kernel
  have haccepted : (overwritten.step (.submit .hold ⟨0, 0⟩)).answer =
      .ok (.outcome (.accepted receipt)) := congrArg (Except.ok ∘ Answer.outcome) houtcome
  obtain ⟨-, -, -, hlisting, hselector, hvalues⟩ :=
    receipt_readable {} _ .hold ⟨0, 0⟩ hread haccepted
  have hname : "selectedProvider" ∈ receipt.names := by decide
  exact ⟨haccepted, by rfl, fun h => hlisting.mp h hname, fun h => hselector.mp h hname,
    hvalues _ (.head _) _ (.head _)⟩

end Session

end IdentityForms
