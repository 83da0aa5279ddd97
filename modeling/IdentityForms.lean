import IdentityForms.Calendar.Date
import IdentityForms.Calendar.Moment
import IdentityForms.Calendar.Reading
import IdentityForms.Calendar.Writing
import IdentityForms.Entries
import IdentityForms.Failure
import IdentityForms.Form.Basic
import IdentityForms.Form.Field
import IdentityForms.Form.Layout
import IdentityForms.Form.Path
import IdentityForms.Json.Basic
import IdentityForms.Json.Binary64
import IdentityForms.Json.Document
import IdentityForms.Json.Lexeme
import IdentityForms.Json.Numeral
import IdentityForms.Json.Reader
import IdentityForms.Json.Record
import IdentityForms.Problem
import IdentityForms.Rule.Basic
import IdentityForms.Rule.Token
import IdentityForms.Schema.Basic
import IdentityForms.Schema.Defect
import IdentityForms.Schema.Document
import IdentityForms.Schema.Slot
import IdentityForms.Search.Basic
import IdentityForms.Search.Matching
import IdentityForms.Session.Basic
import IdentityForms.Session.Run
import IdentityForms.Settings.Basic
import IdentityForms.Settings.Document
import IdentityForms.Submission.Basic
import IdentityForms.Submission.Description
import IdentityForms.Submission.Desk
import IdentityForms.Submission.Gate
import IdentityForms.Submission.Lifecycle
import IdentityForms.Text.Blank
import IdentityForms.Text.CaseTable
import IdentityForms.Text.Lowercase
import IdentityForms.Text.Printable
import IdentityForms.Text.Quoted
import IdentityForms.Text.RangeTable
import IdentityForms.Proofs.Submission.Completion
import IdentityForms.Proofs.Form.Pristine
import IdentityForms.Proofs.Session.Mirror
import IdentityForms.Proofs.Search.Debounce
import IdentityForms.Proofs.Except
import IdentityForms.Proofs.Json.Distinct
import IdentityForms.Proofs.Schema.Distinct
import IdentityForms.Proofs.Form.Addressing
import IdentityForms.Proofs.Session.Acceptance
import IdentityForms.Proofs.Schema.Reading
import IdentityForms.Proofs.Rule.Digits
import IdentityForms.Proofs.Rule.Tokens
import IdentityForms.Proofs.Schema.Strictness
import IdentityForms.Proofs.Form.Filling
import IdentityForms.Proofs.Form.Invalid
import IdentityForms.Proofs.Submission.Recovery
import IdentityForms.Proofs.Entries
import IdentityForms.Proofs.Submission.Receipt
import IdentityForms.Proofs.Submission.Telling
import IdentityForms.Proofs.Session.Receipt
import IdentityForms.Proofs.Session.Invisible
import IdentityForms.Proofs.Json.Value
import IdentityForms.Proofs.Schema.Legible
import IdentityForms.Proofs.Schema.Alike
import IdentityForms.Proofs.Schema.Writing
import IdentityForms.Proofs.Session.History
import IdentityForms.Proofs.Session.Keeping
import IdentityForms.Proofs.Form.Placement
import IdentityForms.Proofs.Submission.Surfacing
import IdentityForms.Proofs.Session.Display
import IdentityForms.Proofs.Form.Arrangement
import IdentityForms.Proofs.Calendar.Exclusion
import IdentityForms.Proofs.Calendar.Scanning
import IdentityForms.Proofs.Rule.RoundTrip
import IdentityForms.Proofs.Calendar.Days
import IdentityForms.Proofs.Calendar.Denotation
import IdentityForms.Proofs.Text.Lowercase
import IdentityForms.Proofs.Search.Literal
import IdentityForms.Proofs.Submission.Clock
import IdentityForms.Proofs.Form.Updating
import IdentityForms.Proofs.Submission.Views
import IdentityForms.Proofs.Settings.Document
import IdentityForms.Proofs.Search.Refining
import IdentityForms.Proofs.Search.Recasing
import IdentityForms.Proofs.Rule.Limits
import IdentityForms.Proofs.Schema.FirstDefect
import IdentityForms.Proofs.Rule.DigitLanguages
import IdentityForms.Proofs.Schema.Orders
