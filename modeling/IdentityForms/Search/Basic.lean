import IdentityForms.Search.Matching

/-! A search that waits for a pause: an input is evaluated when no other has followed it for a
set time, or when the search is closed. -/
namespace IdentityForms

namespace Search

/-- What an evaluation found. The list before any evaluation has number zero. -/
structure Result where
  query : String
  found : List String
  number : Nat
  deriving DecidableEq

/-- An input that waits, and the time since it came. -/
structure Pending where
  text : String
  quiet : Nat
  deriving DecidableEq

inductive Step where
  | input (text : String)
  | sleep (time : Nat)
  | close
  deriving DecidableEq

end Search

structure Search where
  names : List String
  pause : Nat
  latest : Search.Result
  pending? : Option Search.Pending := none
  isClosed : Bool := false
  deriving DecidableEq

namespace Search

def start (names : List String) (pause : Nat) : Search where
  names := names
  pause := pause
  latest := ⟨"", names, 0⟩

def evaluate (search : Search) (text : String) : Search :=
  { search with
    latest := ⟨text, matchingNames search.names text, search.latest.number + 1⟩
    pending? := none }

def settle (search : Search) : Search :=
  match search.pending? with
  | none => search
  | some pending => if search.pause ≤ pending.quiet then search.evaluate pending.text else search

def flush (search : Search) : Search :=
  match search.pending? with
  | none => search
  | some pending => search.evaluate pending.text

def wait (search : Search) (time : Nat) : Search :=
  { search with
    pending? := search.pending?.map fun pending =>
      { pending with quiet := pending.quiet + time } }

/-- One step. A new input takes the place of the one that waits; a closed search takes none. -/
def step (search : Search) : Step → Search
  | .input text =>
    if search.isClosed then search else settle { search with pending? := some ⟨text, 0⟩ }
  | .sleep time => (search.wait time).settle
  | .close => { search.flush with isClosed := true }

/-- The result that a step has published, if any. -/
def published? (search : Search) (step : Step) : Option Result :=
  let next := search.step step
  if next.latest.number = search.latest.number then none else some next.latest

end Search

end IdentityForms
