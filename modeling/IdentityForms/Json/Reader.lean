/-! Reading from the front of a text. A reader gives what it has read and the text that is
left, which is shorter; so whatever repeats a reader comes to an end. The lemmas `result_…`
say what each way of joining readers makes of a text. -/
namespace IdentityForms.Json

/-- What can be wrong with a text: it ends too early, it breaks the grammar, or it says
something other than what is asked for. -/
inductive Fault where
  | truncated
  | malformed
  | mismatched
  deriving DecidableEq

def Fault.text : Fault → String
  | truncated => "the text ends inside a value"
  | malformed => "the text is not well formed"
  | mismatched => "a value is not of the kind asked for"

structure Parsed (α : Type) (text : List Char) where
  value : α
  rest : List Char
  shorter : rest.length < text.length

abbrev Reader (α : Type) := (text : List Char) → Except Fault (Parsed α text)

variable {α β σ : Type}

namespace Parsed

def map (f : α → β) {text : List Char} (parsed : Parsed α text) : Parsed β text :=
  ⟨f parsed.value, parsed.rest, parsed.shorter⟩

/-- Counts what stood before the text as read too. -/
def after {inner outer : List Char} (parsed : Parsed α inner) (h : inner.length ≤ outer.length) :
    Parsed α outer :=
  ⟨parsed.value, parsed.rest, Nat.lt_of_lt_of_le parsed.shorter h⟩

/-- What was read and what is left, without the bound. -/
def pair {text : List Char} (parsed : Parsed α text) : α × List Char :=
  (parsed.value, parsed.rest)

end Parsed

theorem length_le_cons (c : Char) (rest : List Char) : rest.length ≤ (c :: rest).length :=
  Nat.le_succ rest.length

namespace Reader

/-- What a reader makes of a text, as a plain value. -/
def result (reader : Reader α) (text : List Char) : Except Fault (α × List Char) :=
  (reader text).map (·.pair)

def map (f : α → β) (reader : Reader α) : Reader β :=
  fun text => (reader text).map (·.map f)

def resume (reader : Reader α) (rest : List Char) {text : List Char}
    (h : rest.length ≤ text.length) : Except Fault (Parsed α text) :=
  (reader rest).map (·.after h)

def past (reader : Reader α) (rest : List Char) {c : Char} : Except Fault (Parsed α (c :: rest)) :=
  reader.resume rest (length_le_cons c rest)

def following (reader : Reader β) {text : List Char} (parsed : Parsed α text) :
    Except Fault (Parsed β text) :=
  reader.resume parsed.rest (Nat.le_of_lt parsed.shorter)

/-- Runs one reader and then another, which may depend on what the first has read. -/
def bind (first : Reader α) (next : α → Reader β) : Reader β := fun text =>
  match first text with
  | .error fault => .error fault
  | .ok parsed => (next parsed.value).following parsed

def orElse (first second : Reader α) : Reader α := fun text =>
  match first text with
  | .error _ => second text
  | .ok parsed => .ok parsed

/-- Keeps of what is read what `pick` finds fit, and fails if it finds nothing. -/
def demand (reader : Reader α) (fault : Fault) (pick : α → Option β) : Reader β := fun text =>
  match reader text with
  | .error fault => .error fault
  | .ok parsed =>
    match pick parsed.value with
    | none => .error fault
    | some value => .ok (parsed.map fun _ => value)

@[simp] theorem result_map (f : α → β) (reader : Reader α) (text : List Char) :
    (reader.map f).result text = (reader.result text).map (·.map f id) := by
  unfold result map
  cases reader text <;> rfl

@[simp] theorem map_pair_resume (reader : Reader α) (rest : List Char) {text : List Char}
    (h : rest.length ≤ text.length) :
    (reader.resume rest h).map (·.pair) = reader.result rest := by
  unfold result resume
  cases reader rest <;> rfl

@[simp] theorem map_pair_past (reader : Reader α) (rest : List Char) (c : Char) :
    (reader.past rest (c := c)).map (·.pair) = reader.result rest :=
  map_pair_resume reader rest (length_le_cons c rest)

theorem result_bind (first : Reader α) (next : α → Reader β) (text : List Char) :
    (first.bind next).result text =
      (first.result text).bind fun read => (next read.1).result read.2 := by
  unfold result bind
  cases first text with
  | error fault => rfl
  | ok parsed => exact map_pair_resume _ _ _

theorem result_orElse (first second : Reader α) (text : List Char) :
    (first.orElse second).result text =
      match first.result text with
      | .error _ => second.result text
      | .ok read => .ok read := by
  unfold result orElse
  cases first text <;> rfl

theorem result_demand (reader : Reader α) (fault : Fault) (pick : α → Option β)
    (text : List Char) :
    (reader.demand fault pick).result text =
      (reader.result text).bind fun read =>
        match pick read.1 with
        | none => .error fault
        | some value => .ok (value, read.2) := by
  unfold result demand
  cases reader text with
  | error fault => rfl
  | ok parsed =>
    simp only [Except.map, Except.bind, Parsed.pair]
    cases pick parsed.value <;> rfl

end Reader

/-- The white space of the grammar, which is less than that of Unicode. -/
def isSpace (c : Char) : Bool := c = ' ' || c = '\t' || c = '\n' || c = '\r'

def skipSpace (text : List Char) : List Char := text.dropWhile isSpace

theorem length_skipSpace_le (text : List Char) : (skipSpace text).length ≤ text.length :=
  (List.dropWhile_sublist isSpace).length_le

def spaced (reader : Reader α) : Reader α := fun text =>
  reader.resume (skipSpace text) (length_skipSpace_le text)

@[simp] theorem result_spaced (reader : Reader α) (text : List Char) :
    (spaced reader).result text = reader.result (skipSpace text) :=
  Reader.map_pair_resume _ _ _

def character : Reader Char
  | [] => .error .truncated
  | c :: rest => .ok ⟨c, rest, by simp⟩

@[simp] theorem result_character_nil : character.result [] = .error .truncated := rfl

@[simp] theorem result_character_cons (c : Char) (rest : List Char) :
    character.result (c :: rest) = .ok (c, rest) := rfl

def exactly (c : Char) : Reader Unit :=
  character.demand .malformed fun d => if d = c then some () else none

/-- What comes between parts in brackets, or after them: true for a comma and false for the
closing bracket. -/
def separator (close : Char) : Reader Bool :=
  spaced (character.demand .malformed fun c =>
    if c = ',' then some true else if c = close then some false else none)

/-- One or more parts with commas between them, up to the closing bracket, folded into a
state. -/
def partsFrom (close : Char) (part : σ → Reader σ) (state : σ) (text : List Char) :
    Except Fault (Parsed σ text) :=
  match part state text with
  | .error fault => .error fault
  | .ok ⟨state', rest, h⟩ =>
    match separator close rest with
    | .error fault => .error fault
    | .ok ⟨false, rest', h'⟩ => .ok ⟨state', rest', Nat.lt_trans h' h⟩
    | .ok ⟨true, rest', h'⟩ =>
      have : rest'.length < text.length := Nat.lt_trans h' h
      (partsFrom close part state' rest').map (·.after (Nat.le_of_lt this))
termination_by text.length

theorem result_partsFrom (close : Char) (part : σ → Reader σ) (state : σ) (text : List Char) :
    Reader.result (partsFrom close part state) text =
      ((part state).result text).bind fun read =>
        ((separator close).result read.2).bind fun separated =>
          if separated.1 then Reader.result (partsFrom close part read.1) separated.2
          else .ok (read.1, separated.2) := by
  unfold Reader.result
  rw [partsFrom]
  cases part state text with
  | error fault => rfl
  | ok parsed =>
    obtain ⟨state', rest, h⟩ := parsed
    simp only [Except.map, Except.bind, Parsed.pair]
    cases separator close rest with
    | error fault => rfl
    | ok separated =>
      obtain ⟨isComma, rest', h'⟩ := separated
      cases isComma with
      | false => rfl
      | true =>
        simp only [if_true]
        cases partsFrom close part state' rest' <;> rfl

/-- The parts in brackets of which the opening one has been read. The reader of a part refuses
a closing bracket as malformed and the end of the text as truncated. -/
def parts (close : Char) (part : σ → Reader σ) (state : σ) : Reader σ :=
  (Reader.map (fun _ => state) (spaced (exactly close))).orElse (partsFrom close part state)

/-- What may follow: `reader` reads it if its first character is a sign of it, and otherwise
nothing is taken. -/
def optional (isSign : Char → Bool) (reader : Reader α) (absent : α) (text : List Char) :
    Except Fault (α × { rest : List Char // rest.length ≤ text.length }) :=
  match text with
  | [] => .ok (absent, ⟨[], Nat.le_refl _⟩)
  | c :: rest =>
    if isSign c then
      match reader rest with
      | .error fault => .error fault
      | .ok ⟨a, rest', h⟩ => .ok (a, ⟨rest', Nat.le_succ_of_le (Nat.le_of_lt h)⟩)
    else .ok (absent, ⟨c :: rest, Nat.le_refl _⟩)

/-- Reads a whole text: after the value only white space may follow. -/
def Reader.run (reader : Reader α) (text : String) : Except Fault α :=
  match reader.result text.toList with
  | .error fault => .error fault
  | .ok (value, rest) => if skipSpace rest = [] then .ok value else .error .malformed

end IdentityForms.Json
