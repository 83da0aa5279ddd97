import IdentityForms.Proofs.Json.Spelling

/-! Documents as they are written: their numbers by the digits, their objects with every member.
Each text of a value is the text of a document that the value is made from. -/
namespace IdentityForms.Json

/-- A document, but for its white space and the ways in which its characters are written. -/
inductive Written where
  | null
  | bool (value : Bool)
  | number (numeral : Numeral)
  | string (value : String)
  | array (items : List Written)
  | object (members : List (String × Written))

namespace Written

/-- The member of a name. Of several the last one counts. -/
def member? (written : Written) (name : String) : Option Written :=
  match written with
  | object members => members.reverse.lookup name
  | _ => none

/-- Every number of a document has a number that it is read to. -/
inductive ScalarText : Written → List Char → Prop where
  | null : ScalarText .null ['n', 'u', 'l', 'l']
  | true : ScalarText (.bool true) ['t', 'r', 'u', 'e']
  | false : ScalarText (.bool false) ['f', 'a', 'l', 's', 'e']
  | number (numeral : Numeral) (number : Number) (text : List Char) (h : NumeralText numeral text)
      (hvalue : numeral.toNumber? = some number) : ScalarText (.number numeral) text
  | string (value : String) (text : List Char) (h : StringText value text) :
      ScalarText (.string value) text

section

variable (Inner : Written → List Char → Prop)

def ItemText (item : Written) : List Char → Prop := Padded (Inner item)

def MemberText (member : String × Written) (text : List Char) : Prop :=
  ∃ key value, Padded (StringText member.1) key ∧ Padded (Inner member.2) value ∧
    text = key ++ ':' :: value

inductive NestedText : Written → List Char → Prop where
  | scalar (written : Written) (text : List Char) (h : ScalarText written text) :
      NestedText written text
  | array (items : List Written) (texts : List (List Char)) (text : List Char)
      (hitems : List.Forall₂ (ItemText Inner) items texts) (h : Bracketed '[' ']' texts text) :
      NestedText (.array items) text
  | object (members : List (String × Written)) (texts : List (List Char)) (text : List Char)
      (hmembers : List.Forall₂ (MemberText Inner) members texts)
      (h : Bracketed '{' '}' texts text) : NestedText (.object members) text

end

/-- A document whose brackets nest at most `depth` deep. -/
def Text : (depth : Nat) → Written → List Char → Prop
  | 0 => ScalarText
  | depth + 1 => NestedText (Text depth)

theorem ScalarText.text {written : Written} {text : List Char} (h : ScalarText written text)
    (depth : Nat) : Text depth written text := by
  cases depth with
  | zero => exact h
  | succ depth => exact .scalar written text h

/-- Which value a document is read to. -/
inductive Denotes : Written → Json → Prop where
  | null : Denotes .null .null
  | bool (value : Bool) : Denotes (.bool value) (.bool value)
  | number (numeral : Numeral) (number : Number) (hdecimal : numeral.IsDecimal)
      (h : numeral.toNumber? = some number) : Denotes (.number numeral) (.number number)
  | string (value : String) : Denotes (.string value) (.string value)
  | array (items : List Written) (jsons : List Json) (h : List.Forall₂ Denotes items jsons) :
      Denotes (.array items) (.array jsons)
  | object (members : List (String × Written)) (entries : List (String × Json))
      (hnames : members.map Prod.fst = entries.map Prod.fst)
      (h : List.Forall₂ Denotes (members.map Prod.snd) (entries.map Prod.snd)) :
      Denotes (.object members) (.object (Entries.ofList entries))

/-- What becomes of a member. -/
def Reads (member : String × Written) (entry : String × Json) : Prop :=
  member.1 = entry.1 ∧ Denotes member.2 entry.2

theorem forall₂_reads {members : List (String × Written)} {entries : List (String × Json)} :
    List.Forall₂ Reads members entries ↔ members.map Prod.fst = entries.map Prod.fst ∧
      List.Forall₂ Denotes (members.map Prod.snd) (entries.map Prod.snd) := by
  rw [← List.forall₂_eq_eq_eq, List.forall₂_map_left_iff, List.forall₂_map_right_iff,
    List.forall₂_map_left_iff, List.forall₂_map_right_iff]
  constructor
  · intro h
    exact ⟨h.imp fun _ _ => And.left, h.imp fun _ _ => And.right⟩
  · rintro ⟨hnames, hvalues⟩
    induction hnames with
    | nil => exact .nil
    | cons hname _ ih =>
      cases hvalues with
      | cons hvalue hvalues => exact .cons ⟨hname, hvalue⟩ (ih hvalues)

theorem forall₂_through {α β γ : Type} {R : α → β → Prop} {S : α → γ → Prop} {T : γ → β → Prop}
    (hmiddle : ∀ a b, R a b → ∃ c, S a c ∧ T c b) {as : List α} {bs : List β}
    (h : List.Forall₂ R as bs) : ∃ cs, List.Forall₂ S as cs ∧ List.Forall₂ T cs bs := by
  induction h with
  | nil => exact ⟨[], .nil, .nil⟩
  | cons hfirst _ ih =>
    obtain ⟨c, hac, hcb⟩ := hmiddle _ _ hfirst
    obtain ⟨cs, hacs, hcbs⟩ := ih
    exact ⟨c :: cs, .cons hac hacs, .cons hcb hcbs⟩

theorem exists_padded {α : Type} {Inner : α → List Char → Prop} {P : List Char → Prop}
    {wanted : α → Prop} {text : List Char} (h : Padded P text)
    (hinner : ∀ inner, P inner → ∃ a, wanted a ∧ Inner a inner) :
    ∃ a, wanted a ∧ Padded (Inner a) text := by
  obtain ⟨before, inner, after, hbefore, hP, hafter, rfl⟩ := h
  obtain ⟨a, ha, hinner⟩ := hinner inner hP
  exact ⟨a, ha, before, inner, after, hbefore, hinner, hafter, rfl⟩

variable {depth : Nat} {json : Json} {written : Written} {text : List Char}

theorem exists_scalar (h : Json.ScalarText json text) :
    ∃ written, Denotes written json ∧ ScalarText written text := by
  cases h with
  | null => exact ⟨_, .null, .null⟩
  | true => exact ⟨_, .bool _, .true⟩
  | false => exact ⟨_, .bool _, .false⟩
  | number number _ h =>
    obtain ⟨numeral, hnumeral, hvalue⟩ := h.exists_numeral
    exact ⟨_, .number numeral number hnumeral.isDecimal hvalue,
      .number numeral number text hnumeral hvalue⟩
  | string value _ h => exact ⟨_, .string value, .string value text h⟩

theorem exists_written (h : ValueText depth json text) :
    ∃ written, Denotes written json ∧ Text depth written text := by
  induction depth generalizing json text with
  | zero => exact exists_scalar h
  | succ depth ih =>
    cases h with
    | scalar _ _ h =>
      obtain ⟨written, hdenotes, hwritten⟩ := exists_scalar h
      exact ⟨written, hdenotes, hwritten.text (depth + 1)⟩
    | array items _ h =>
      obtain ⟨texts, htexts, hbracketed⟩ := h
      obtain ⟨documents, hdenotes, hdocuments⟩ := forall₂_through
        (S := fun json written => Denotes written json) (T := ItemText (Text depth))
        (fun json text h => exists_padded h fun _ => ih) htexts
      exact ⟨_, .array documents items hdenotes.flip, .array documents texts text hdocuments
        hbracketed⟩
    | object entries _ h =>
      obtain ⟨texts, htexts, hbracketed⟩ := h
      have hmember (entry : String × Json) (text : List Char)
          (h : Json.MemberText (ValueText depth) entry text) :
          ∃ member, Reads member entry ∧ MemberText (Text depth) member text := by
        obtain ⟨key, value, hkey, hvalue, rfl⟩ := h
        obtain ⟨written, hdenotes, hvalue⟩ := exists_padded hvalue fun _ => ih
        exact ⟨(entry.1, written), ⟨rfl, hdenotes⟩, key, value, hkey, hvalue, rfl⟩
      obtain ⟨members, hreads, hmembers⟩ := forall₂_through hmember htexts
      obtain ⟨hnames, hvalues⟩ := forall₂_reads.mp hreads.flip
      exact ⟨_, .object members entries hnames hvalues, .object members texts text hmembers
        hbracketed⟩

theorem ScalarText.exists_denotes (h : ScalarText written text) :
    ∃ json, Denotes written json ∧ Json.ScalarText json text := by
  cases h with
  | null => exact ⟨_, .null, .null⟩
  | true => exact ⟨_, .bool _, .true⟩
  | false => exact ⟨_, .bool _, .false⟩
  | number numeral number _ h hvalue =>
    exact ⟨_, .number numeral number h.isDecimal hvalue,
      .number number text (numberText_of_toNumber? h hvalue)⟩
  | string value _ h => exact ⟨_, .string value, .string value text h⟩

theorem Text.exists_denotes (h : Text depth written text) :
    ∃ json, Denotes written json ∧ ValueText depth json text := by
  induction depth generalizing written text with
  | zero => exact ScalarText.exists_denotes h
  | succ depth ih =>
    cases h with
    | scalar _ _ h =>
      obtain ⟨json, hdenotes, hjson⟩ := h.exists_denotes
      exact ⟨json, hdenotes, hjson.value (depth + 1)⟩
    | array items texts _ hitems hbracketed =>
      obtain ⟨jsons, hdenotes, hjsons⟩ := forall₂_through
        (S := Denotes) (T := fun json => Padded (ValueText depth json))
        (fun written text h => exists_padded h fun _ => ih) hitems
      exact ⟨_, .array items jsons hdenotes, .array jsons text ⟨texts, hjsons, hbracketed⟩⟩
    | object members texts _ hmembers hbracketed =>
      have hmember (member : String × Written) (text : List Char)
          (h : MemberText (Text depth) member text) :
          ∃ entry, Reads member entry ∧ Json.MemberText (ValueText depth) entry text := by
        obtain ⟨key, value, hkey, hvalue, rfl⟩ := h
        obtain ⟨json, hdenotes, hvalue⟩ := exists_padded hvalue fun _ => ih
        exact ⟨(member.1, json), ⟨rfl, hdenotes⟩, key, value, hkey, hvalue, rfl⟩
      obtain ⟨entries, hreads, hentries⟩ := forall₂_through hmember hmembers
      obtain ⟨hnames, hvalues⟩ := forall₂_reads.mp hreads
      exact ⟨_, .object members entries hnames hvalues,
        .object entries text ⟨texts, hentries, hbracketed⟩⟩

/-- A name means the same member before and after the document is read. -/
theorem Denotes.lookup {entries : List (String × Json)} (h : Denotes written (.object entries))
    (name : String) : Option.Rel Denotes (written.member? name) (entries.lookup name) := by
  cases h with
  | object members entries hnames hvalues =>
    rw [Entries.lookup_ofList]
    exact Entries.rel_lookup (List.rel_reverse (forall₂_reads.mpr ⟨hnames, hvalues⟩)) name

theorem memberText_of_plain {name : String} (hname : name.toList.all isPlain)
    (h : Text depth written text) :
    MemberText (Text depth) (name, written) ('"' :: (name.toList ++ ['"']) ++ ':' :: text) :=
  ⟨_, _, padded_self (stringText_of_plain hname), padded_self h, rfl⟩

end Written

end IdentityForms.Json
