import IdentityForms.Json.Document
import IdentityForms.Proofs.Entries
import IdentityForms.Proofs.Except
import Mathlib.Algebra.Group.Int.Defs

/-! The texts of JSON values. A value has many of them: white space may stand around every token,
and the characters of a string may be escaped, each in its own way. Every string has at least one,
and so has whatever is made of values that have one. -/
namespace IdentityForms.Json

def Blank (text : List Char) : Prop := ∀ c ∈ text, c ∈ [' ', '\t', '\n', '\r']

/-- A text with white space around it. -/
def Padded (Inner : List Char → Prop) (text : List Char) : Prop :=
  ∃ before inner after, Blank before ∧ Inner inner ∧ Blank after ∧
    text = before ++ (inner ++ after)

/-- A hexadecimal digit, in either case. -/
def HexText (value : Nat) (c : Char) : Prop :=
  c = Nat.digitChar value ∨ c = (Nat.digitChar value).toUpper

/-- The four hexadecimal digits of a code of 16 bits. -/
def QuadText (code : Nat) (digits : List Char) : Prop :=
  List.Forall₂ HexText [code / 0x1000, code / 0x100 % 0x10, code / 0x10 % 0x10, code % 0x10] digits

/-- The letters after a backslash, each with the character that it stands for. -/
def letterEscapes : List (Char × Char) :=
  [('"', '"'), ('\\', '\\'), ('/', '/'), ('b', '\x08'), ('f', '\x0c'), ('n', '\n'), ('r', '\r'),
    ('t', '\t')]

inductive CharacterText (c : Char) : List Char → Prop where
  | plain (hcontrol : 0x20 ≤ c.toNat) (hquote : c ≠ '"') (hslash : c ≠ '\\') : CharacterText c [c]
  | letter (letter : Char) (h : (letter, c) ∈ letterEscapes) : CharacterText c ['\\', letter]
  | code (digits : List Char) (h : c.toNat < 0x10000) (hdigits : QuadText c.toNat digits) :
      CharacterText c ('\\' :: 'u' :: digits)
  | surrogates (leading trailing : List Char) (h : 0x10000 ≤ c.toNat)
      (hleading : QuadText (0xD800 + (c.toNat - 0x10000) / 0x400) leading)
      (htrailing : QuadText (0xDC00 + (c.toNat - 0x10000) % 0x400) trailing) :
      CharacterText c ('\\' :: 'u' :: (leading ++ '\\' :: 'u' :: trailing))

def StringText (value : String) (text : List Char) : Prop :=
  ∃ pieces, List.Forall₂ CharacterText value.toList pieces ∧ text = '"' :: (pieces.flatten ++ ['"'])

/-- One or more digits. -/
def DigitsText (text : List Char) : Prop := text ≠ [] ∧ ∀ c ∈ text, c.isDigit

inductive FractionText : List Char → List Char → Prop where
  | absent : FractionText [] []
  | present (digits : List Char) (h : DigitsText digits) : FractionText digits ('.' :: digits)

inductive ExponentText : Option Int → List Char → Prop where
  | absent : ExponentText none []
  | unsigned (mark : Char) (digits : List Char) (hmark : mark = 'e' ∨ mark = 'E')
      (h : DigitsText digits) :
      ExponentText (some (Nat.ofDigitChars 10 digits 0)) (mark :: digits)
  | plus (mark : Char) (digits : List Char) (hmark : mark = 'e' ∨ mark = 'E')
      (h : DigitsText digits) :
      ExponentText (some (Nat.ofDigitChars 10 digits 0)) (mark :: '+' :: digits)
  | minus (mark : Char) (digits : List Char) (hmark : mark = 'e' ∨ mark = 'E')
      (h : DigitsText digits) :
      ExponentText (some (-Nat.ofDigitChars 10 digits 0)) (mark :: '-' :: digits)

/-- A numeral without its sign. -/
structure MagnitudeText (numeral : Numeral) (text : List Char) : Prop where
  whole : DigitsText numeral.whole
  unpadded : numeral.whole.head? = some '0' → numeral.whole = ['0']
  parts : ∃ fraction exponent, FractionText numeral.fraction fraction ∧
    ExponentText numeral.exponent exponent ∧ text = numeral.whole ++ (fraction ++ exponent)

inductive NumeralText (numeral : Numeral) : List Char → Prop where
  | unsigned (text : List Char) (hsign : numeral.negative = false)
      (h : MagnitudeText numeral text) : NumeralText numeral text
  | minus (text : List Char) (hsign : numeral.negative = true)
      (h : MagnitudeText numeral text) : NumeralText numeral ('-' :: text)

structure Numeral.IsDecimal (numeral : Numeral) : Prop where
  whole : ∀ c ∈ numeral.whole, c.isDigit
  fraction : ∀ c ∈ numeral.fraction, c.isDigit

section

variable {numeral : Numeral} {text : List Char} (h : NumeralText numeral text)
include h

theorem NumeralText.exists_magnitude : ∃ text, MagnitudeText numeral text := by
  cases h with
  | unsigned text _ h => exact ⟨text, h⟩
  | minus text _ h => exact ⟨text, h⟩

theorem NumeralText.isDecimal : numeral.IsDecimal := by
  obtain ⟨_, hmagnitude⟩ := h.exists_magnitude
  refine ⟨hmagnitude.whole.2, ?_⟩
  obtain ⟨fraction, -, hfraction, -⟩ := hmagnitude.parts
  generalize numeral.fraction = digits at hfraction
  cases hfraction with
  | absent => simp
  | present _ hdigits => exact hdigits.2

end

/-- An integer is written without leading zeros, a point or an exponent. What else is a numeral is
rounded to a double. -/
inductive NumberText : Number → List Char → Prop where
  | integer (n : Int) (hmin : -2 ^ 63 ≤ n) (hmax : n < 2 ^ 64) :
      NumberText (.integer n) (toString n).toList
  | binary (numeral : Numeral) (x : Binary64) (text : List Char) (h : NumeralText numeral text)
      (hvalue : numeral.toNumber? = some (.binary x)) : NumberText (.binary x) text

inductive ScalarText : Json → List Char → Prop where
  | null : ScalarText .null ['n', 'u', 'l', 'l']
  | true : ScalarText (.bool true) ['t', 'r', 'u', 'e']
  | false : ScalarText (.bool false) ['f', 'a', 'l', 's', 'e']
  | number (number : Number) (text : List Char) (h : NumberText number text) :
      ScalarText (.number number) text
  | string (value : String) (text : List Char) (h : StringText value text) :
      ScalarText (.string value) text

/-- Parts between brackets, with commas between them. -/
inductive Bracketed (left right : Char) : List (List Char) → List Char → Prop where
  | empty (blank : List Char) (h : Blank blank) :
      Bracketed left right [] (left :: (blank ++ [right]))
  | parts (texts : List (List Char)) (h : texts ≠ []) :
      Bracketed left right texts (left :: ([','].intercalate texts ++ [right]))

section

variable (Inner : Json → List Char → Prop)

def ArrayText (items : List Json) (text : List Char) : Prop :=
  ∃ texts, List.Forall₂ (fun item => Padded (Inner item)) items texts ∧
    Bracketed '[' ']' texts text

def MemberText (member : String × Json) (text : List Char) : Prop :=
  ∃ key value, Padded (StringText member.1) key ∧ Padded (Inner member.2) value ∧
    text = key ++ ':' :: value

/-- An object with its members as they are written, of which several may have one key. -/
def ObjectText (members : List (String × Json)) (text : List Char) : Prop :=
  ∃ texts, List.Forall₂ (MemberText Inner) members texts ∧ Bracketed '{' '}' texts text

inductive NestedText : Json → List Char → Prop where
  | scalar (json : Json) (text : List Char) (h : ScalarText json text) : NestedText json text
  | array (items : List Json) (text : List Char) (h : ArrayText Inner items text) :
      NestedText (.array items) text
  | object (members : List (String × Json)) (text : List Char) (h : ObjectText Inner members text) :
      NestedText (.object (Entries.ofList members)) text

end

/-- A value whose brackets nest at most `depth` deep. -/
def ValueText : (depth : Nat) → Json → List Char → Prop
  | 0 => ScalarText
  | depth + 1 => NestedText (ValueText depth)

/-- Whether a character may stand in a string unescaped. -/
def isPlain (c : Char) : Bool := 0x20 ≤ c.toNat && c ≠ '"' && c ≠ '\\'

theorem stringText_of_plain {value : String} (h : value.toList.all isPlain) :
    StringText value ('"' :: (value.toList ++ ['"'])) := by
  refine ⟨value.toList.map fun c => [c], ?_, ?_⟩
  · rw [List.forall₂_map_right_iff, List.forall₂_same]
    intro c hc
    have hplain := List.all_eq_true.mp h c hc
    simp only [isPlain, Bool.and_eq_true, decide_eq_true_eq] at hplain
    exact .plain hplain.1.1 hplain.1.2 hplain.2
  · rw [← List.flatMap_def, List.flatMap_singleton']

theorem padded_self {Inner : List Char → Prop} {text : List Char} (h : Inner text) :
    Padded Inner text :=
  ⟨[], text, [], by simp [Blank], h, by simp [Blank], by simp⟩

theorem memberText_of_plain {Inner : Json → List Char → Prop} {name : String} {json : Json}
    {text : List Char} (hname : name.toList.all isPlain) (h : Inner json text) :
    MemberText Inner (name, json) ('"' :: (name.toList ++ ['"']) ++ ':' :: text) :=
  ⟨_, _, padded_self (stringText_of_plain hname), padded_self h, rfl⟩

theorem exists_quadText (code : Nat) : ∃ digits, QuadText code digits :=
  ⟨_, .cons (.inl rfl) (.cons (.inl rfl) (.cons (.inl rfl) (.cons (.inl rfl) .nil)))⟩

theorem exists_characterText (c : Char) : ∃ text, CharacterText c text := by
  by_cases h : c.toNat < 0x10000
  · obtain ⟨digits, hdigits⟩ := exists_quadText c.toNat
    exact ⟨_, .code digits h hdigits⟩
  · obtain ⟨leading, hleading⟩ := exists_quadText (0xD800 + (c.toNat - 0x10000) / 0x400)
    obtain ⟨trailing, htrailing⟩ := exists_quadText (0xDC00 + (c.toNat - 0x10000) % 0x400)
    exact ⟨_, .surrogates leading trailing (Nat.not_lt.mp h) hleading htrailing⟩

/-- Every string has a text. -/
theorem exists_stringText (value : String) : ∃ text, StringText value text := by
  obtain ⟨pieces, hpieces⟩ := Except.exists_forall₂.mpr fun c (_ : c ∈ value.toList) =>
    exists_characterText c
  exact ⟨_, pieces, hpieces, rfl⟩

theorem exists_bracketed (left right : Char) (texts : List (List Char)) :
    ∃ text, Bracketed left right texts text := by
  cases texts with
  | nil => exact ⟨_, .empty [] (by simp [Blank])⟩
  | cons first texts => exact ⟨_, .parts (first :: texts) (by simp)⟩

section

variable {Inner : Json → List Char → Prop}

theorem exists_arrayText {items : List Json} (h : ∀ item ∈ items, ∃ text, Inner item text) :
    ∃ text, ArrayText Inner items text := by
  have hpadded (item : Json) (hitem : item ∈ items) : ∃ text, Padded (Inner item) text := by
    obtain ⟨text, htext⟩ := h item hitem
    exact ⟨text, padded_self htext⟩
  obtain ⟨texts, htexts⟩ := Except.exists_forall₂.mpr hpadded
  obtain ⟨text, htext⟩ := exists_bracketed '[' ']' texts
  exact ⟨text, texts, htexts, htext⟩

theorem exists_objectText {members : List (String × Json)}
    (h : ∀ member ∈ members, ∃ text, Inner member.2 text) :
    ∃ text, ObjectText Inner members text := by
  have hmember (member : String × Json) (hmem : member ∈ members) :
      ∃ text, MemberText Inner member text := by
    obtain ⟨key, hkey⟩ := exists_stringText member.1
    obtain ⟨value, hvalue⟩ := h member hmem
    exact ⟨_, key, value, padded_self hkey, padded_self hvalue, rfl⟩
  obtain ⟨texts, htexts⟩ := Except.exists_forall₂.mpr hmember
  obtain ⟨text, htext⟩ := exists_bracketed '{' '}' texts
  exact ⟨text, texts, htexts, htext⟩

end

variable {depth : Nat} {text : List Char}

theorem ScalarText.value {json : Json} (h : ScalarText json text) (depth : Nat) :
    ValueText depth json text := by
  cases depth with
  | zero => exact h
  | succ depth => exact .scalar json text h

theorem exists_valueText_array {items : List Json}
    (h : ∀ item ∈ items, ∃ text, ValueText depth item text) :
    ∃ text, ValueText (depth + 1) (.array items) text := by
  obtain ⟨text, htext⟩ := exists_arrayText h
  exact ⟨text, .array items text htext⟩

theorem ObjectText.value {members : List (String × Json)} (hnodup : (members.map Prod.fst).Nodup)
    (h : ObjectText (ValueText depth) members text) :
    ValueText (depth + 1) (.object members) text := by
  have hobject := NestedText.object members text h
  rw [Entries.ofList_eq_self_iff.mpr hnodup] at hobject
  exact hobject

theorem exists_valueText_object {members : List (String × Json)}
    (hnodup : (members.map Prod.fst).Nodup)
    (h : ∀ member ∈ members, ∃ text, ValueText depth member.2 text) :
    ∃ text, ValueText (depth + 1) (.object members) text := by
  obtain ⟨text, htext⟩ := exists_objectText h
  exact ⟨text, htext.value hnodup⟩

end IdentityForms.Json
