import IdentityForms.Calendar.Writing
import IdentityForms.Submission.Gate
import IdentityForms.Text.Quoted

/-! One-line descriptions of gates and of what they hold, for logs. -/
namespace IdentityForms

def bracketed {α : Type} (text : α → String) (items : List α) : String :=
  "[" ++ ", ".intercalate (items.map text) ++ "]"

namespace Submission

namespace Receipt

def valueText (entry : String × String) : String :=
  "(" ++ quote entry.1 ++ ", " ++ quote entry.2 ++ ")"

def groupText (entry : String × List (String × String)) : String :=
  "(" ++ quote entry.1 ++ ", " ++ bracketed valueText entry.2 ++ ")"

def description (receipt : Receipt) : String :=
  "SubmittedData \x7b selector_label: " ++ quote receipt.selectorKey ++
    ", provider: " ++ quote receipt.provider ++
    ", categories: " ++ bracketed groupText receipt.groups ++
    ", submitted_at: " ++ receipt.acceptedAt.text ++ " \x7d"

end Receipt

def Gate.description (gate : Gate) : String :=
  "SubmissionController \x7b state: " ++ gate.phase.name ++
    ", submitted: " ++
      gate.receipt?.elim "None" (fun receipt => "Some(" ++ receipt.description ++ ")") ++
    ", trail: " ++ bracketed Phase.name gate.trail ++ ", .. \x7d"

/-- A completion handle as it is handed out. -/
def handleDescription : String := "CompletionHandle \x7b done: false, .. \x7d"

end Submission

end IdentityForms
