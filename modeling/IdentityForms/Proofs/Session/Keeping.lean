import IdentityForms.Proofs.Session.History
import IdentityForms.Proofs.Session.Mirror

/-! The receipt that a session keeps. It is that of the latest acceptance, and tells what stood in
the form at that time, whatever has been done to the session since. -/
namespace IdentityForms

namespace Submission

/-- Whether a receipt tells the provider and the values of a form, and the rules of the form accept
these values at the moment of the receipt. -/
structure Receipt.Records (receipt : Receipt) (form : Form) : Prop where
  provider : form.provider? = some receipt.provider
  selector : form.selector.entry.value = receipt.provider
  groups : receipt.groups = form.groups.map fun group =>
    (group.name, group.fields.map fun field => (field.label, field.entry.value))
  accept : ∀ field ∈ form.fields, Rule.Accept field.rules field.entry.value receipt.acceptedAt

def Outcome.receipt? : Outcome → Option Receipt
  | accepted receipt => some receipt
  | ignored | rejected _ => none

theorem Desk.receipt?_submit (desk : Desk) (reaction : Reaction) (now : Moment) :
    (desk.submit reaction now).after.gate.receipt? =
      (desk.submit reaction now).outcome.receipt?.or desk.gate.receipt? := by
  by_cases hbusy : desk.gate.phase.isEngaged
  · rw [desk.submit_of_isEngaged reaction now hbusy]
    rfl
  · rcases desk.submit_cases reaction now hbusy with
      ⟨-, houtcome, hreceipt⟩ | ⟨-, receipt, -, houtcome, hreceipt⟩
    · rw [houtcome, hreceipt]
      rfl
    · rw [houtcome, hreceipt]
      rfl

end Submission

namespace Session

open Submission

/-- The receipt that an operation returned, if it was a submission that was accepted. -/
def Deed.receipt? (deed : Deed) : Option Receipt :=
  match deed.answer with
  | .ok (.outcome outcome) => outcome.receipt?
  | _ => none

def receipts (deeds : List Deed) : List Receipt := deeds.filterMap Deed.receipt?

variable {session next : Session} {op : Op} {answer : Except Problem Answer}

theorem Effect.receipt? (heffect : Effect session op answer next) :
    next.gate.receipt? = (Deed.receipt? ⟨session, op, answer⟩).or session.gate.receipt? := by
  cases heffect with
  | submitted reaction now => exact session.desk.receipt?_submit reaction now
  | completed lifecycle h =>
    obtain ⟨-, rfl⟩ := Lifecycle.complete?_eq_some.mp h
    rfl
  | dropped lifecycle h =>
    obtain ⟨-, rfl⟩ := Lifecycle.drop?_eq_some.mp h
    rfl
  | _ => rfl

theorem receipt?_after (settings : Settings) (ops : List Op) :
    ((start settings).after ops).gate.receipt? =
      (receipts ((start settings).history ops)).getLast? := by
  refine history_induction (motive := fun deeds session =>
    session.gate.receipt? = (receipts deeds).getLast?) ops rfl ?_
  intro deeds session op answer next h heffect
  rw [heffect.receipt?, h, receipts, receipts, List.filterMap_append, List.getLast?_append]
  congr 1
  cases hreceipt : Deed.receipt? ⟨session, op, answer⟩ <;> simp [hreceipt]

theorem Mirrors.records (h : session.Mirrors) {reaction : Reaction} {now : Moment}
    {receipt : Receipt} (haccepted : (session.desk.submit reaction now).outcome =
      .accepted receipt) : receipt.acceptedAt = now ∧ receipt.Records session.form := by
  have houtcome : (session.gate.submit session.form now).outcome = .accepted receipt := haccepted
  obtain ⟨hvalid, hreceipt⟩ := Gate.submit_of_accepted session.form now houtcome
  have haccept := (Form.invalidCount_checked session.form now).mp hvalid
  have hat : receipt.acceptedAt = now := by rw [hreceipt, Receipt.ofForm]
  have hprovider : receipt.provider = session.form.selector.entry.value := by
    rw [hreceipt]
    rfl
  -- The selector is required, so a form without a provider is not accepted.
  have hvalue : session.form.selector.entry.value ≠ "" := by
    have hselector := (Form.forall_mem_fields.mp haccept).1
    rw [h.rules_selector] at hselector
    exact Rule.accept_required.mp hselector
  refine ⟨hat, ⟨?provider, hprovider.symm, ?groups, hat ▸ haccept⟩⟩
  case provider =>
    rcases h.cases with ⟨-, hnone, -⟩ | ⟨name, _, _, -, hchosen, hname, -⟩
    · exact absurd hnone hvalue
    · rw [hchosen, hprovider, hname]
  case groups =>
    rw [hreceipt]
    exact Receipt.groups_ofForm_checked session.form _ now

theorem Effect.records (heffect : Effect session op answer next) (h : session.Mirrors)
    {receipt : Receipt} (hreceipt : Deed.receipt? ⟨session, op, answer⟩ = some receipt) :
    ∃ reaction, op = .submit reaction receipt.acceptedAt ∧ receipt.Records session.form := by
  cases heffect with
  | submitted reaction now =>
    change (session.desk.submit reaction now).outcome.receipt? = some receipt at hreceipt
    cases houtcome : (session.desk.submit reaction now).outcome with
    | accepted taken =>
      rw [houtcome] at hreceipt
      cases hreceipt
      obtain ⟨rfl, hrecords⟩ := h.records houtcome
      exact ⟨reaction, rfl, hrecords⟩
    | _ =>
      rw [houtcome] at hreceipt
      cases hreceipt
  | _ => cases hreceipt

/-- After any run the receipt that is kept is the last of those returned, if any. More operations
return more receipts and leave the earlier ones as they are. Each receipt records the form as it was
when the submission found it. -/
theorem latest_receipt_kept (settings : Settings) (ops : List Op) :
    let session := (start settings).after ops
    let deeds := (start settings).history ops
    deeds.map Deed.op = ops ∧
    deeds.map Deed.answer = ((start settings).run ops).1.map Step.answer ∧
    session.gate.receipt? = (receipts deeds).getLast? ∧
    (∀ more, receipts ((start settings).history (ops ++ more)) =
      receipts deeds ++ receipts (session.history more)) ∧
    (∀ deed ∈ deeds, ∀ receipt, deed.receipt? = some receipt →
      ∃ front reaction back, ops = front ++ .submit reaction receipt.acceptedAt :: back ∧
        deed.before = (start settings).after front ∧ receipt.Records deed.before.form) := by
  intro session deeds
  refine ⟨map_op_history _ ops, map_answer_history _ ops, receipt?_after settings ops, ?_, ?_⟩
  · intro more
    rw [history_append]
    exact List.filterMap_append
  · intro deed hdeed receipt hreceipt
    obtain ⟨front, back, next, hops, hbefore, heffect⟩ := exists_of_mem_history hdeed
    have hmirrors : deed.before.Mirrors := hbefore ▸ mirrors_after settings front
    obtain ⟨reaction, hop, hrecords⟩ := heffect.records hmirrors hreceipt
    exact ⟨front, reaction, back, hop ▸ hops, hbefore, hrecords⟩

end Session

end IdentityForms
