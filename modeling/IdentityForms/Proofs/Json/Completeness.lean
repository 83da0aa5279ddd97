import IdentityForms.Proofs.Json.Brackets

/-! Every text of the grammar is read to the value that it is a text of. -/
namespace IdentityForms.Json

variable {text : List Char} {json : Json}

namespace Assembly

theorem covers_scalar (h : ScalarText json text) : Covers kept.scalar json text := by
  cases h with
  | null => exact covers_of_result fun rest _ => rfl
  | true => exact covers_of_result fun rest _ => rfl
  | false => exact covers_of_result fun rest _ => rfl
  | number number _ h =>
    obtain ⟨numeral, hnumeral, -⟩ := h.exists_numeral
    have hnumber : Covers boundedNumber number text :=
      covers_of_result fun rest hrest => result_boundedNumber h hrest
    exact ensures_number hnumeral (hnumber.map Json.number)
  | string value _ h =>
    refine (ensures_string kept (h.quoted False)).imp ?_
    rintro _ ⟨name, rfl, rfl⟩
    rfl

theorem covers_array {depth : Nat} (hinner : ∀ json text, Padded (ValueText depth json) text →
      Covers (kept.read depth) json text)
    {items : List Json} (h : ArrayText (ValueText depth) items text) :
    Covers (kept.here (depth + 1)) (.array items) text := by
  obtain ⟨texts, htexts, hbracketed⟩ := h
  have hruns : Runs False (item (kept.read depth)) (fun json => Padded (ValueText depth json))
      (· = items.foldl (fun items item => item :: items) []) items [] :=
    runs_foldl fun json _ text h _ => (hinner json text h).map _
  refine (ensures_array (fun json _ _ h => h.imp fun _ h => h.shape.starts) htexts hbracketed
    hruns).imp ?_
  rintro _ ⟨_, rfl, rfl⟩
  rw [List.foldl_flip_cons_eq_append', List.append_nil, List.reverse_reverse]
  rfl

theorem covers_object {depth : Nat} (hinner : ∀ json text, Padded (ValueText depth json) text →
      Covers (kept.read depth) json text)
    {members : List (String × Json)} (h : ObjectText (ValueText depth) members text) :
    Covers (kept.here (depth + 1)) (.object (Entries.ofList members)) text := by
  obtain ⟨texts, htexts, hbracketed⟩ := h
  have hruns : Runs False (kept.member (kept.read depth)) (MemberText (ValueText depth))
      (· = Entries.ofList members) members [] := by
    refine runs_foldl ?_
    rintro member - _ ⟨key, value, hkey, hvalue, rfl⟩ state
    have hquoted := hkey.imp fun _ h => h.quoted False
    refine (ensures_member hquoted (hinner member.2 value hvalue) state).imp ?_
    rintro _ ⟨_, _, rfl, rfl, rfl⟩
    rfl
  refine (ensures_object ?_ htexts hbracketed hruns).imp ?_
  · rintro _ - _ ⟨key, value, hkey, -, rfl⟩
    exact (hkey.imp fun _ => StringText.starts).starts_append _
  · rintro _ ⟨_, rfl, rfl⟩
    rfl

theorem covers_value (depth : Nat) {json : Json} {text : List Char}
    (h : ValueText depth json text) : Covers (kept.here depth) json text := by
  induction depth generalizing json text with
  | zero => exact ensures_here_of_scalar (ScalarText.shape h).startsScalar (covers_scalar h)
  | succ depth ih =>
    have hinner (json : Json) (text : List Char) (h : Padded (ValueText depth json) text) :
        Covers (kept.read depth) json text :=
      kept.read_eq_spaced depth ▸ .spaced (fun _ h => h.shape.starts) (fun _ => ih) h
    cases h with
    | scalar _ _ h => exact ensures_here_of_scalar h.shape.startsScalar (covers_scalar h)
    | array _ _ h => exact covers_array hinner h
    | object _ _ h => exact covers_object hinner h

end Assembly

/-- A whole text of a value is read to it. -/
theorem ofText_of_padded {text : String} {json : Json}
    (h : Padded (ValueText maxDepth json) text.toList) : ofText text = .ok json := by
  have hcovers : Covers (Assembly.kept.read maxDepth) json text.toList :=
    Assembly.kept.read_eq_spaced maxDepth ▸
      .spaced (fun _ h => h.shape.starts) (fun _ => Assembly.covers_value maxDepth) h
  exact hcovers.run

end IdentityForms.Json
