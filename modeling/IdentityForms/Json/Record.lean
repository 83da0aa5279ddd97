import IdentityForms.Json.Document

/-! Records read straight from a JSON text, from an object or from an array of the members'
values in their declared order. Each member says what change it makes to the record. -/
namespace IdentityForms.Json

variable {α σ : Type}

/-- A scalar that `pick` finds fit. Any other well-formed scalar is a mismatch, and so is a
bracket, whatever follows it. -/
def fitting (pick : Json → Option α) : Reader α :=
  spaced fun text =>
    match text with
    | '[' :: _ | '{' :: _ => .error .mismatched
    | text => Assembly.kept.scalar.demand .mismatched pick text

def natural? : Json → Option UInt64
  | number (.integer n) => if 0 ≤ n ∧ n.toNat < UInt64.size then some (.ofNat n.toNat) else none
  | _ => none

def string? : Json → Option String
  | string s => some s
  | _ => none

def null? : Json → Option Unit
  | null => some ()
  | _ => none

/-- One of a set of names, as a string or as the only key of an object that holds null. -/
def choice (ofName? : String → Option α) : Reader α :=
  let name : Reader α := (quoted .full).demand .mismatched ofName?
  spaced fun text =>
    match text with
    | [] => .error .truncated
    | '"' :: rest => name.past rest
    | '{' :: rest => Reader.past
        ((spaced (exactly '"')).bind fun _ => name.bind fun a =>
          (spaced (exactly ':')).bind fun _ => (fitting null?).bind fun _ =>
            Reader.map (fun _ => a) (spaced (exactly '}')))
        rest
    | _ :: _ => .error .malformed

structure Member (σ : Type) where
  name : String
  change : Reader (σ → σ)

/-- How a record is read. Where every member is needed, a missing one is a mismatch. -/
structure Record (σ : Type) where
  initial : σ
  members : List (Member σ)
  needsAll : Bool

namespace Record

/-- The members still to come, and the record that those before them make. -/
abbrev Progress (σ : Type) := List (Member σ) × σ

def finish (record : Record σ) (progress : Progress σ) : Option σ :=
  if record.needsAll ∧ progress.1 ≠ [] then none else some progress.2

/-- What follows a key: a member of the record, which must not have come before, or something
that is passed over. -/
def afterKey (record : Record σ) (progress : Progress σ) (key : String) :
    Reader (Progress σ) :=
  match progress.1.find? (·.name = key) with
  | some member => (spaced (exactly ':')).bind fun _ =>
      Reader.map (fun change => (progress.1.filter (·.name ≠ key), change progress.2))
        member.change
  | none =>
    if record.members.any (·.name = key) then fun _ => .error .mismatched
    else (spaced (exactly ':')).bind fun _ => Reader.map (fun _ => progress) skip

def named (record : Record σ) (progress : Progress σ) : Reader (Progress σ) :=
  (spaced (exactly '"')).bind fun _ => (quoted .full).bind (record.afterKey progress)

/-- A further item of an array, which is the next member's value. -/
def inOrder (progress : Progress σ) : Reader (Progress σ) :=
  match progress.1 with
  | [] => fun _ => .error .malformed
  | member :: members => Reader.map (fun change => (members, change progress.2)) member.change

/-- A record in either form. Any other value is a mismatch. -/
def read (record : Record σ) : Reader σ :=
  let start : Progress σ := (record.members, record.initial)
  spaced fun text =>
    match text with
    | '{' :: rest =>
      ((parts '}' record.named start).demand .mismatched record.finish).past rest
    | '[' :: rest =>
      ((parts ']' inOrder start).demand .mismatched record.finish).past rest
    | text => fitting (fun _ => none) text

end Record

end IdentityForms.Json
