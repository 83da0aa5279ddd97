import IdentityForms.Form.Layout
import IdentityForms.Schema.Document
import IdentityForms.Schema.Slot
import IdentityForms.Search.Basic
import IdentityForms.Submission.Desk

/-! A session: one schema, the form of the chosen provider, and one gate. -/
namespace IdentityForms

structure Session where
  settings : Settings
  slot : Schema.Slot
  desk : Submission.Desk
  deriving DecidableEq

namespace Session

def start (settings : Settings) : Session where
  settings := settings
  slot := .empty
  desk := ⟨.blank, .ofSettings settings⟩

def form (session : Session) : Form := session.desk.form

def gate (session : Session) : Submission.Gate := session.desk.gate

def withForm (session : Session) (form : Form) : Session :=
  { session with desk := session.desk.withForm form }

def withLifecycle (session : Session) (lifecycle : Submission.Lifecycle) : Session :=
  { session with desk := session.desk.withLifecycle lifecycle }

/-- Lays out the form of a provider afresh. An empty name leaves no provider chosen. -/
def layOut (session : Session) (name : String) : Except Problem Layout :=
  if name = "" then .ok ⟨.blank, []⟩
  else do
    let provider ← session.slot.provider name
    .ok (provider.layOut name)

def search (session : Session) : Search :=
  .start session.slot.names session.settings.searchPause.toNat

end Session

end IdentityForms
