import IdentityForms.Json.Lexeme

/-! Whole JSON texts. Brackets nest at most 127 deep in a value that is kept, and as deep as
they like in one that is passed over. -/
namespace IdentityForms.Json

variable {α σ : Type}

/-- What is made of the parts of a value: `α` of a value, `σ` of the members of an object. -/
structure Assembly (α σ : Type) where
  strictness : Strictness
  null : α
  bool : Bool → α
  number : Reader α
  string : String → α
  array : List α → α
  noMembers : σ
  putMember : String → α → σ → σ
  object : σ → α

namespace Assembly

/-- Keeps everything; a repeated key takes its last value at its first place. -/
def kept : Assembly Json (List (String × Json)) where
  strictness := .full
  null := .null
  bool := .bool
  number := Reader.map .number boundedNumber
  string := .string
  array := .array
  noMembers := []
  putMember := Entries.put
  object := .object

def passedOver : Assembly Unit Unit where
  strictness := .shape
  null := ()
  bool := fun _ => ()
  number := Reader.map (fun _ => ()) (numeral .shape)
  string := fun _ => ()
  array := fun _ => ()
  noMembers := ()
  putMember := fun _ _ _ => ()
  object := fun _ => ()

/-- A value that is no array or object, with nothing before it. -/
def scalar (assembly : Assembly α σ) : Reader α := fun text =>
  match text with
  | [] => .error .truncated
  | '"' :: rest =>
    (Reader.map assembly.string (quoted assembly.strictness)).past rest
  | 'n' :: rest =>
    (Reader.map (fun _ => assembly.null) (word 'u' ['l', 'l'])).past rest
  | 't' :: rest =>
    (Reader.map (fun _ => assembly.bool true) (word 'r' ['u', 'e'])).past rest
  | 'f' :: rest =>
    (Reader.map (fun _ => assembly.bool false) (word 'a' ['l', 's', 'e'])).past rest
  | c :: rest =>
    if c = '-' ∨ c.isDigit then assembly.number (c :: rest) else .error .malformed

/-- A further item of an array. The items read before it come latest first. -/
def item (inner : Reader α) (items : List α) : Reader (List α) := Reader.map (· :: items) inner

def member (assembly : Assembly α σ) (inner : Reader α) (members : σ) : Reader σ :=
  (spaced (exactly '"')).bind fun _ => (quoted assembly.strictness).bind fun key =>
    (spaced (exactly ':')).bind fun _ =>
      Reader.map (fun value => assembly.putMember key value members) inner

/-- A value that begins right here. Brackets may hold what `inner` reads, if there is such. -/
def readHere (assembly : Assembly α σ) (inner : Option (Reader α)) : Reader α := fun text =>
  match text, inner with
  | '[' :: rest, some inner =>
    (Reader.map (fun items => assembly.array items.reverse) (parts ']' (item inner) [])).past rest
  | '{' :: rest, some inner =>
    (Reader.map assembly.object
      (parts '}' (assembly.member inner) assembly.noMembers)).past rest
  | text, _ => assembly.scalar text

/-- A value whose brackets nest at most `depth` deep; the first bracket beyond is malformed. -/
def read (assembly : Assembly α σ) : (depth : Nat) → Reader α
  | 0 => spaced (assembly.readHere none)
  | depth + 1 => spaced (assembly.readHere (some (assembly.read depth)))

end Assembly

def maxDepth : Nat := 127

def ofText (text : String) : Except Fault Json := (Assembly.kept.read maxDepth).run text

/-- Passes over a value. No text is deeper than it is long. -/
def skip : Reader Unit := fun text => Assembly.passedOver.read text.length text

end IdentityForms.Json
