import IdentityForms.Json.Numeral
import IdentityForms.Json.Reader

/-! The lexemes of JSON: words, strings and numerals. A value that nobody looks at is read
for its shape alone: its escapes need not denote characters, its numbers need not fit, and
a numeral that breaks off is malformed rather than truncated. -/
namespace IdentityForms.Json

inductive Strictness where
  | full
  | shape
  deriving DecidableEq

def word (c : Char) : (letters : List Char) → Reader Unit
  | [] => exactly c
  | d :: letters => (exactly c).bind fun _ => word d letters

def hexValue? (c : Char) : Option Nat :=
  if c.isDigit then some (c.toNat - '0'.toNat)
  else if 'a' ≤ c ∧ c ≤ 'f' then some (c.toNat - 'a'.toNat + 10)
  else if 'A' ≤ c ∧ c ≤ 'F' then some (c.toNat - 'A'.toNat + 10)
  else none

/-- Four hexadecimal digits. With fewer than four bytes left the text counts as truncated
whatever they are. -/
def hexQuad : Reader Nat
  | a :: b :: c :: d :: rest =>
    match hexValue? a, hexValue? b, hexValue? c, hexValue? d with
    | some a, some b, some c, some d =>
      .ok ⟨((a * 16 + b) * 16 + c) * 16 + d, rest, by simp; omega⟩
    | _, _, _, _ => .error .malformed
  | text => .error (if (String.ofList text).utf8ByteSize < 4 then .truncated else .malformed)

def isLeadingSurrogate (unit : Nat) : Bool := 0xD800 ≤ unit && unit < 0xDC00

def isTrailingSurrogate (unit : Nat) : Bool := 0xDC00 ≤ unit && unit < 0xE000

def ofSurrogates (leading trailing : Nat) : Char :=
  Char.ofNat (0x10000 + (leading - 0xD800) * 0x400 + (trailing - 0xDC00))

/-- The second half of a pair of escapes whose first half is `leading`. -/
def trailingEscape (leading : Nat) : Reader Char :=
  (exactly '\\').bind fun _ => (exactly 'u').bind fun _ =>
    hexQuad.demand .malformed fun unit =>
      if isTrailingSurrogate unit then some (ofSurrogates leading unit) else none

/-- An escape by code, after its letter. Characters beyond 16 bits take a pair of surrogates. -/
def codeEscape (strictness : Strictness) : Reader Char := fun text =>
  match hexQuad text with
  | .error fault => .error fault
  | .ok unit =>
    if strictness = .full ∧ isTrailingSurrogate unit.value then .error .malformed
    else if strictness = .full ∧ isLeadingSurrogate unit.value then
      (trailingEscape unit.value).following unit
    else .ok (unit.map Char.ofNat)

def letterEscape? : Char → Option Char
  | '"' => some '"'
  | '\\' => some '\\'
  | '/' => some '/'
  | 'b' => some '\x08'
  | 'f' => some '\x0c'
  | 'n' => some '\n'
  | 'r' => some '\r'
  | 't' => some '\t'
  | _ => none

/-- An escape, after its backslash. -/
def escape (strictness : Strictness) : Reader Char
  | 'u' :: rest => (codeEscape strictness).past rest
  | text => character.demand .malformed letterEscape? text

/-- The characters of a string up to the closing quote. -/
def characters (strictness : Strictness) (text : List Char) :
    Except Fault (Parsed (List Char) text) :=
  match text with
  | [] => .error .truncated
  | c :: rest =>
    if c = '"' then .ok ⟨[], rest, by simp⟩
    else if c = '\\' then
      match escape strictness rest with
      | .error fault => .error fault
      | .ok ⟨d, rest', h⟩ =>
        have hrest : rest'.length < (c :: rest).length := Nat.lt_succ_of_lt h
        (characters strictness rest').map fun parsed =>
          (parsed.map (d :: ·)).after (Nat.le_of_lt hrest)
    else if c.toNat < 0x20 then .error .malformed
    else (characters strictness rest).map fun parsed =>
      (parsed.map (c :: ·)).after (length_le_cons c rest)
termination_by text.length
decreasing_by
  · exact hrest
  · exact Nat.lt_succ_self rest.length

/-- A string whose opening quote has been read. -/
def quoted (strictness : Strictness) : Reader String :=
  Reader.map String.ofList (characters strictness)

def digits (strictness : Strictness) : Reader (List Char)
  | [] => .error (if strictness = .full then .truncated else .malformed)
  | c :: rest =>
    if c.isDigit then
      .ok ⟨c :: rest.takeWhile Char.isDigit, rest.dropWhile Char.isDigit,
        Nat.lt_succ_of_le (List.dropWhile_sublist _).length_le⟩
    else .error .malformed

/-- The digits before the point, of which the first is zero only if it is alone. -/
def wholeDigits (strictness : Strictness) : Reader (List Char) :=
  (digits strictness).demand .malformed fun ds =>
    if ds.head? = some '0' ∧ ds ≠ ['0'] then none else some ds

def magnitude (strictness : Strictness) : Reader Int :=
  Reader.map (fun ds => Nat.ofDigitChars 10 ds 0) (digits strictness)

/-- The digits of an exponent with or without a sign. -/
def exponentDigits (strictness : Strictness) : Reader Int
  | '-' :: rest => (Reader.map (fun n => -n) (magnitude strictness)).past rest
  | '+' :: rest => (magnitude strictness).past rest
  | text => magnitude strictness text

def unsignedNumeral (strictness : Strictness) (negative : Bool) : Reader Numeral := fun text => do
  let ⟨whole, rest, h⟩ ← wholeDigits strictness text
  let (fraction, ⟨rest', h'⟩) ← optional (· = '.') (digits strictness) [] rest
  let (exponent, ⟨rest'', h''⟩) ← optional (fun c => c = 'e' || c = 'E')
    (Reader.map some (exponentDigits strictness)) none rest'
  .ok ⟨⟨negative, whole, fraction, exponent⟩, rest'', by omega⟩

def numeral (strictness : Strictness) : Reader Numeral
  | '-' :: rest => (unsignedNumeral strictness true).past rest
  | text => unsignedNumeral strictness false text

def boundedNumber : Reader Number := (numeral .full).demand .malformed Numeral.toNumber?

end IdentityForms.Json
