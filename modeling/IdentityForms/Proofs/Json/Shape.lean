import IdentityForms.Proofs.Json.Numerals

/-! The texts of values by their shape alone. Half of a pair of surrogates may stand in a string
without the other, and a numeral may be too large for any number; so every text of a value has such
a shape, but not every shape is the text of a value. -/
namespace IdentityForms.Json

/-- A character of a string as it is written, or half of one. -/
inductive PieceShape : List Char → Prop where
  | plain (c : Char) (hcontrol : 0x20 ≤ c.toNat) (hquote : c ≠ '"') (hslash : c ≠ '\\') :
      PieceShape [c]
  | letter (letter c : Char) (h : (letter, c) ∈ letterEscapes) : PieceShape ['\\', letter]
  | code (code : Nat) (digits : List Char) (h : code < 0x10000) (hdigits : QuadText code digits) :
      PieceShape ('\\' :: 'u' :: digits)

def StringShape (text : List Char) : Prop :=
  ∃ pieces : List (List Char), (∀ piece ∈ pieces, PieceShape piece) ∧
    text = '"' :: (pieces.flatten ++ ['"'])

inductive ScalarShape : List Char → Prop where
  | null : ScalarShape ['n', 'u', 'l', 'l']
  | true : ScalarShape ['t', 'r', 'u', 'e']
  | false : ScalarShape ['f', 'a', 'l', 's', 'e']
  | number (numeral : Numeral) (text : List Char) (h : NumeralText numeral text) : ScalarShape text
  | string (text : List Char) (h : StringShape text) : ScalarShape text

/-- An array whose items are written as the given texts. -/
def ArrayOf (items : List (List Char)) (text : List Char) : Prop :=
  ∃ texts, List.Forall₂ (fun item => Padded (· = item)) items texts ∧ Bracketed '[' ']' texts text

/-- A member whose key and value are written as the given texts. -/
def MemberOf (member : List Char × List Char) (text : List Char) : Prop :=
  ∃ key value, Padded (· = member.1) key ∧ Padded (· = member.2) value ∧ text = key ++ ':' :: value

def ObjectOf (members : List (List Char × List Char)) (text : List Char) : Prop :=
  ∃ texts, List.Forall₂ MemberOf members texts ∧ Bracketed '{' '}' texts text

section

variable (Inner : List Char → Prop)

structure MembersShape (members : List (List Char × List Char)) : Prop where
  keys : ∀ member ∈ members, StringShape member.1
  values : ∀ member ∈ members, Inner member.2

inductive NestedShape : List Char → Prop where
  | scalar (text : List Char) (h : ScalarShape text) : NestedShape text
  | array (items : List (List Char)) (text : List Char) (hitems : ∀ item ∈ items, Inner item)
      (h : ArrayOf items text) : NestedShape text
  | object (members : List (List Char × List Char)) (text : List Char)
      (hmembers : MembersShape Inner members) (h : ObjectOf members text) : NestedShape text

end

/-- Whatever is a value by its shape, with brackets at most `depth` deep. -/
def ValueShape : (depth : Nat) → List Char → Prop
  | 0 => ScalarShape
  | depth + 1 => NestedShape (ValueShape depth)

/-! A text of a value has the shape of one. -/

section

variable {depth : Nat} {text : List Char} {json : Json}

theorem CharacterText.exists_pieces {c : Char} (h : CharacterText c text) :
    ∃ pieces : List (List Char), (∀ piece ∈ pieces, PieceShape piece) ∧ pieces.flatten = text := by
  have hvalid : c.toNat < 0xD800 ∨ 0xDFFF < c.toNat ∧ c.toNat < 0x110000 := c.valid
  cases h with
  | plain hcontrol hquote hslash => exact ⟨[_], by simpa using .plain c hcontrol hquote hslash, rfl⟩
  | letter letter h => exact ⟨[_], by simpa using .letter letter c h, rfl⟩
  | code digits h hdigits => exact ⟨[_], by simpa using .code _ digits h hdigits, by simp⟩
  | surrogates leading trailing h hleading htrailing =>
    refine ⟨['\\' :: 'u' :: leading, '\\' :: 'u' :: trailing], ?_, by simp⟩
    simp only [List.forall_mem_cons]
    exact ⟨.code _ leading (by omega) hleading, .code _ trailing (by omega) htrailing, by simp⟩

theorem exists_pieces_flatten {cs : List Char} {texts : List (List Char)}
    (h : List.Forall₂ CharacterText cs texts) : ∃ pieces : List (List Char),
      (∀ piece ∈ pieces, PieceShape piece) ∧ pieces.flatten = texts.flatten := by
  induction h with
  | nil => exact ⟨[], by simp, rfl⟩
  | cons hpiece _ ih =>
    obtain ⟨front, hfront, rfl⟩ := hpiece.exists_pieces
    obtain ⟨back, hback, heq⟩ := ih
    exact ⟨front ++ back, List.forall_mem_append.mpr ⟨hfront, hback⟩, by simp [heq]⟩

theorem StringText.shape {value : String} (h : StringText value text) : StringShape text := by
  obtain ⟨texts, htexts, rfl⟩ := h
  obtain ⟨pieces, hpieces, heq⟩ := exists_pieces_flatten htexts
  exact ⟨pieces, hpieces, by rw [heq]⟩

theorem ScalarText.shape (h : ScalarText json text) : ScalarShape text := by
  cases h with
  | null => exact .null
  | true => exact .true
  | false => exact .false
  | number number _ h =>
    obtain ⟨numeral, hnumeral, -⟩ := h.exists_numeral
    exact .number numeral text hnumeral
  | string value _ h => exact .string text h.shape

theorem exists_of_padded {Inner : List Char → Prop} (h : Padded Inner text) :
    ∃ inner, Inner inner ∧ Padded (· = inner) text := by
  obtain ⟨before, inner, after, hbefore, hinner, hafter, rfl⟩ := h
  exact ⟨inner, hinner, before, inner, after, hbefore, rfl, hafter, rfl⟩

theorem ValueText.shape (h : ValueText depth json text) : ValueShape depth text := by
  induction depth generalizing json text with
  | zero => exact ScalarText.shape h
  | succ depth ih =>
    cases h with
    | scalar _ _ h => exact .scalar text h.shape
    | array _ _ h =>
      obtain ⟨texts, htexts, hbracketed⟩ := h
      have hitem (text : List Char) (hmem : text ∈ texts) :
          ∃ item, Padded (· = item) text ∧ ValueShape depth item := by
        obtain ⟨_, hpadded, -⟩ := Except.exists_of_mem_forall₂ htexts.flip hmem
        obtain ⟨item, hitem, hpadded⟩ := exists_of_padded hpadded
        exact ⟨item, hpadded, ih hitem⟩
      obtain ⟨items, hlayout, hitems⟩ := Except.exists_forall₂_left hitem
      exact .array items text hitems ⟨texts, hlayout, hbracketed⟩
    | object _ _ h =>
      obtain ⟨texts, htexts, hbracketed⟩ := h
      have hmember (text : List Char) (hmem : text ∈ texts) : ∃ member, MemberOf member text ∧
          StringShape member.1 ∧ ValueShape depth member.2 := by
        obtain ⟨_, ⟨key, value, hkey, hvalue, rfl⟩, -⟩ :=
          Except.exists_of_mem_forall₂ htexts.flip hmem
        obtain ⟨keyInner, hkeyInner, hkey⟩ := exists_of_padded hkey
        obtain ⟨valueInner, hvalueInner, hvalue⟩ := exists_of_padded hvalue
        exact ⟨(keyInner, valueInner), ⟨key, value, hkey, hvalue, rfl⟩, hkeyInner.shape,
          ih hvalueInner⟩
      obtain ⟨members, hlayout, hmembers⟩ := Except.exists_forall₂_left hmember
      exact .object members text
        ⟨fun member hmem => (hmembers member hmem).1, fun member hmem => (hmembers member hmem).2⟩
        ⟨texts, hlayout, hbracketed⟩

end

/-! How texts begin. -/

section

variable {text : List Char}

/-- Whether a text begins as a value does, with nothing before it. -/
def Starts (text : List Char) : Prop := ∃ c tail, text = c :: tail ∧ c ∉ endings

/-- Whether a text begins as a value does that is no array or object. -/
def StartsScalar (text : List Char) : Prop := ∃ c tail, text = c :: tail ∧ c ∉ '[' :: '{' :: endings

theorem StartsScalar.starts (h : StartsScalar text) : Starts text := by
  obtain ⟨c, tail, rfl, hc⟩ := h
  exact ⟨c, tail, rfl, fun hends => hc (List.mem_append_right ['[', '{'] hends)⟩

theorem NumeralText.startsScalar {numeral : Numeral} (h : NumeralText numeral text) :
    StartsScalar text := by
  obtain ⟨c, tail, htext, hc⟩ := h.exists_cons
  refine ⟨c, tail, htext, fun hmem => ?_⟩
  have hall : ('[' :: '{' :: endings).all fun c => c ≠ '-' ∧ c.isDigit = false := by decide
  have hnot := List.all_eq_true.mp hall c hmem
  simp only [decide_eq_true_eq] at hnot
  rcases hc with hsign | hdigit
  · exact hnot.1 hsign
  · exact absurd hdigit (by simp [hnot.2])

theorem Padded.imp {Inner Inner' : List Char → Prop} (h : Padded Inner text)
    (himp : ∀ inner, Inner inner → Inner' inner) : Padded Inner' text := by
  obtain ⟨before, inner, after, hbefore, hinner, hafter, rfl⟩ := h
  exact ⟨before, inner, after, hbefore, himp inner hinner, hafter, rfl⟩

theorem Padded.starts_append (h : Padded Starts text) (text' : List Char) :
    Padded Starts (text ++ text') := by
  obtain ⟨before, _, after, hbefore, ⟨c, tail, rfl, hc⟩, -, rfl⟩ := h
  exact ⟨before, c :: (tail ++ after ++ text'), [], hbefore, ⟨c, _, rfl, hc⟩, by simp [Blank],
    by simp⟩

theorem StringText.starts {name : String} (h : StringText name text) : Starts text := by
  obtain ⟨inner, rfl⟩ := h.exists_cons
  exact ⟨'"', inner, rfl, by decide⟩

theorem StringShape.starts (h : StringShape text) : Starts text := by
  obtain ⟨pieces, -, rfl⟩ := h
  exact ⟨'"', _, rfl, by decide⟩

theorem MemberOf.starts {member : List Char × List Char} (h : MemberOf member text)
    (hkey : Starts member.1) : Padded Starts text := by
  obtain ⟨key, value, hpadded, -, rfl⟩ := h
  exact (hpadded.imp fun _ heq => heq ▸ hkey).starts_append _

theorem Bracketed.exists_cons {left right : Char} {texts : List (List Char)}
    (h : Bracketed left right texts text) : ∃ inner, text = left :: inner := by
  cases h with
  | empty blank _ => exact ⟨_, rfl⟩
  | parts _ _ => exact ⟨_, rfl⟩

theorem ScalarShape.startsScalar (h : ScalarShape text) : StartsScalar text := by
  cases h with
  | null => exact ⟨'n', _, rfl, by decide⟩
  | true => exact ⟨'t', _, rfl, by decide⟩
  | false => exact ⟨'f', _, rfl, by decide⟩
  | number numeral _ h => exact h.startsScalar
  | string _ h =>
    obtain ⟨pieces, -, rfl⟩ := h
    exact ⟨'"', _, rfl, by decide⟩

theorem ArrayOf.exists_cons {items : List (List Char)} (h : ArrayOf items text) :
    ∃ inner, text = '[' :: inner := by
  obtain ⟨texts, -, hbracketed⟩ := h
  exact hbracketed.exists_cons

theorem ObjectOf.exists_cons {members : List (List Char × List Char)} (h : ObjectOf members text) :
    ∃ inner, text = '{' :: inner := by
  obtain ⟨texts, -, hbracketed⟩ := h
  exact hbracketed.exists_cons

theorem ArrayOf.starts {items : List (List Char)} (h : ArrayOf items text) : Starts text := by
  obtain ⟨inner, rfl⟩ := h.exists_cons
  exact ⟨'[', inner, rfl, by decide⟩

theorem ObjectOf.starts {members : List (List Char × List Char)} (h : ObjectOf members text) :
    Starts text := by
  obtain ⟨inner, rfl⟩ := h.exists_cons
  exact ⟨'{', inner, rfl, by decide⟩

theorem ValueShape.starts {depth : Nat} (h : ValueShape depth text) : Starts text := by
  cases depth with
  | zero => exact (ScalarShape.startsScalar h).starts
  | succ depth =>
    cases h with
    | scalar _ h => exact h.startsScalar.starts
    | array _ _ _ h => exact h.starts
    | object _ _ _ h => exact h.starts

end

/-! Whatever texts parts have, something has them as its parts. -/

theorem bracketed_joined (left right : Char) (texts : List (List Char)) :
    Bracketed left right texts (left :: ([','].intercalate texts ++ [right])) := by
  cases texts with
  | nil => exact .empty [] (by simp [Blank])
  | cons first texts => exact .parts _ (List.cons_ne_nil first texts)

theorem arrayOf_joined (items : List (List Char)) :
    ArrayOf items ('[' :: ([','].intercalate items ++ [']'])) :=
  ⟨items, List.forall₂_same.mpr fun _ _ => padded_self rfl, bracketed_joined '[' ']' items⟩

theorem objectOf_joined (members : List (List Char × List Char)) :
    ObjectOf members ('{' ::
      ([','].intercalate (members.map fun member => member.1 ++ ':' :: member.2) ++ ['}'])) := by
  refine ⟨_, ?_, bracketed_joined '{' '}' _⟩
  rw [List.forall₂_map_right_iff, List.forall₂_same]
  exact fun member _ => ⟨member.1, member.2, padded_self rfl, padded_self rfl, rfl⟩

/-! No part is as long as the whole, so brackets nest no deeper than a text is long. -/

section

variable {text part : List Char} {texts : List (List Char)}

theorem Padded.length_le (h : Padded (· = part) text) : part.length ≤ text.length := by
  obtain ⟨before, _, after, -, rfl, -, rfl⟩ := h
  simp
  omega

theorem length_le_intercalate (h : part ∈ texts) :
    part.length ≤ ([','].intercalate texts).length := by
  induction texts with
  | nil => cases h
  | cons first texts ih =>
    cases texts with
    | nil => simp [List.mem_singleton.mp h]
    | cons second texts =>
      rw [List.intercalate_cons_cons, List.length_append, List.length_append]
      rcases List.mem_cons.mp h with rfl | hmem
      · omega
      · have := ih hmem
        omega

theorem Bracketed.length_lt {left right : Char} (h : Bracketed left right texts text)
    (hpart : part ∈ texts) : part.length < text.length := by
  cases h with
  | empty _ _ => cases hpart
  | parts _ _ =>
    have := length_le_intercalate hpart
    simp
    omega

theorem ArrayOf.length_lt {items : List (List Char)} (h : ArrayOf items text)
    (hitem : part ∈ items) : part.length < text.length := by
  obtain ⟨texts, htexts, hbracketed⟩ := h
  obtain ⟨padded, hpadded, hmem⟩ := Except.exists_of_mem_forall₂ htexts hitem
  exact Nat.lt_of_le_of_lt hpadded.length_le (hbracketed.length_lt hmem)

theorem ObjectOf.length_lt {members : List (List Char × List Char)} {member : List Char × List Char}
    (h : ObjectOf members text) (hmember : member ∈ members) :
    member.2.length < text.length := by
  obtain ⟨texts, htexts, hbracketed⟩ := h
  obtain ⟨_, ⟨key, value, -, hvalue, rfl⟩, hmem⟩ := Except.exists_of_mem_forall₂ htexts hmember
  have hlength := hbracketed.length_lt hmem
  have hle := hvalue.length_le
  simp at hlength
  omega

theorem ValueShape.of_length_le {depth depth' : Nat} (h : ValueShape depth text)
    (hlength : text.length ≤ depth') : ValueShape depth' text := by
  induction depth' generalizing depth text with
  | zero =>
    obtain ⟨c, tail, rfl, -⟩ := h.starts
    cases hlength
  | succ depth' ih =>
    cases depth with
    | zero => exact .scalar text h
    | succ depth =>
      cases h with
      | scalar _ h => exact .scalar text h
      | array items _ hitems h =>
        refine .array items text (fun item hitem => ih (hitems item hitem) ?_) h
        exact Nat.le_of_lt_succ (Nat.lt_of_lt_of_le (h.length_lt hitem) hlength)
      | object members _ hmembers h =>
        refine .object members text ⟨hmembers.keys, fun member hmember =>
          ih (hmembers.values member hmember) ?_⟩ h
        exact Nat.le_of_lt_succ (Nat.lt_of_lt_of_le (h.length_lt hmember) hlength)

end

end IdentityForms.Json
