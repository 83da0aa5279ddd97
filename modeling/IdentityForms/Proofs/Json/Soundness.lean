import IdentityForms.Proofs.Json.Completeness
import IdentityForms.Proofs.Json.Spelling

/-! Whatever is read to a value is a text of that value, so the grammar tells just which texts are
read and what they are read to. -/
namespace IdentityForms.Json

variable {text : List Char}

theorem Blank.append {before after : List Char} (hbefore : Blank before) (hafter : Blank after) :
    Blank (before ++ after) :=
  List.forall_mem_append.mpr ⟨hbefore, hafter⟩

theorem Padded.append {Inner : List Char → Prop} (h : Padded Inner text) {blank : List Char}
    (hblank : Blank blank) : Padded Inner (text ++ blank) := by
  obtain ⟨before, inner, after, hbefore, hinner, hafter, rfl⟩ := h
  exact ⟨before, inner, after ++ blank, hbefore, hinner, hafter.append hblank, by simp⟩

theorem MemberText.append {Inner : Json → List Char → Prop} {member : String × Json}
    (h : MemberText Inner member text) {blank : List Char} (hblank : Blank blank) :
    MemberText Inner member (text ++ blank) := by
  obtain ⟨key, value, hkey, hvalue, rfl⟩ := h
  exact ⟨key, value ++ blank, hkey, hvalue.append hblank, by simp⟩

theorem padded_of_blank {Inner : List Char → Prop} {before inner : List Char}
    (hbefore : Blank before) (hinner : Inner inner) : Padded Inner (before ++ inner) :=
  ⟨before, inner, [], hbefore, hinner, by simp [Blank], by simp⟩

namespace Assembly

theorem takes_scalar : kept.scalar.Takes ScalarText := by
  intro text value rest hread
  unfold scalar Reader.result at hread
  dsimp only at hread
  split at hread
  · cases hread
  · rw [Reader.map_pair_past] at hread
    exact (takes_quoted.map fun value _ => .string value _).cons hread
  · rw [Reader.map_pair_past] at hread
    exact ((takes_word 'u' ['l', 'l']).map fun _ _ h => h ▸ .null).cons hread
  · rw [Reader.map_pair_past] at hread
    exact ((takes_word 'r' ['u', 'e']).map fun _ _ h => h ▸ .true).cons hread
  · rw [Reader.map_pair_past] at hread
    exact ((takes_word 'a' ['l', 's', 'e']).map fun _ _ h => h ▸ .false).cons hread
  · split at hread
    · exact takes_boundedNumber.map (fun number text => .number number text) hread
    · cases hread

variable {depth : Nat} {inner : Reader Json}

theorem takes_array (hinner : inner.Takes fun json taken => Padded (ValueText depth json) taken) :
    (Reader.map (fun items => kept.array items.reverse) (parts ']' (item inner) [])).Takes
      fun json taken => ValueText (depth + 1) json ('[' :: taken) := by
  have hitem (items : List Json) : (item inner items).Takes fun items' taken =>
      ∃ json, Padded (ValueText depth json) taken ∧ items' = json :: items :=
    hinner.map fun json _ h => ⟨json, h, rfl⟩
  refine (takes_parts hitem (fun _ _ _ h => h.append) '[' []).map ?_
  rintro _ taken ⟨jsons, texts, htexts, rfl, hbracketed⟩
  rw [List.foldl_flip_cons_eq_append', List.append_nil, List.reverse_reverse]
  exact .array jsons _ ⟨texts, htexts, hbracketed⟩

theorem takes_member (hinner : inner.Takes fun json taken => Padded (ValueText depth json) taken)
    (members : List (String × Json)) : (kept.member inner members).Takes fun members' taken =>
      ∃ member : String × Json, MemberText (ValueText depth) member taken ∧
        members' = Entries.put member.1 member.2 members := by
  refine (takes_spaced (takes_exactly '"')).bind fun _ _ hquote => takes_quoted.bind
    fun key quoted hkey => (takes_spaced (takes_exactly ':')).bind fun _ _ hcolon =>
      hinner.map fun json value hvalue => ?_
  obtain ⟨before, _, hbefore, rfl, rfl⟩ := hquote
  obtain ⟨after, _, hafter, rfl, rfl⟩ := hcolon
  refine ⟨(key, json), ⟨_, value, (padded_of_blank hbefore hkey).append hafter, hvalue, ?_⟩, rfl⟩
  simp

theorem takes_object (hinner : inner.Takes fun json taken => Padded (ValueText depth json) taken) :
    (Reader.map kept.object (parts '}' (kept.member inner) kept.noMembers)).Takes
      fun json taken => ValueText (depth + 1) json ('{' :: taken) := by
  refine (takes_parts (takes_member hinner) (fun _ _ _ h => h.append) '{' []).map ?_
  rintro _ taken ⟨members, texts, htexts, rfl, hbracketed⟩
  exact .object members _ ⟨texts, htexts, hbracketed⟩

theorem takes_readHere (inner? : Option (Reader Json)) (hinner : ∀ inner ∈ inner?, ∃ below,
      depth = below + 1 ∧ inner.Takes fun json taken => Padded (ValueText below json) taken) :
    Reader.Takes (kept.readHere inner?) (ValueText depth) := by
  intro text value rest hread
  unfold readHere Reader.result at hread
  dsimp only at hread
  split at hread
  · obtain ⟨below, rfl, hbelow⟩ := hinner _ rfl
    rw [Reader.map_pair_past] at hread
    exact (takes_array hbelow).cons hread
  · obtain ⟨below, rfl, hbelow⟩ := hinner _ rfl
    rw [Reader.map_pair_past] at hread
    exact (takes_object hbelow).cons hread
  · obtain ⟨taken, htaken, htext⟩ := takes_scalar hread
    exact ⟨taken, htaken.value depth, htext⟩

theorem takes_read (depth : Nat) :
    (kept.read depth).Takes fun json taken => Padded (ValueText depth json) taken := by
  have hspaced {depth : Nat} {inner? : Option (Reader Json)}
      (h : Reader.Takes (kept.readHere inner?) (ValueText depth)) :
      Reader.Takes (spaced (kept.readHere inner?)) fun json taken =>
        Padded (ValueText depth json) taken := by
    refine (takes_spaced h).imp ?_
    rintro json _ ⟨blank, inner, hblank, hinner, rfl⟩
    exact padded_of_blank hblank hinner
  induction depth with
  | zero => exact hspaced (takes_readHere none (by simp))
  | succ depth ih => exact hspaced (takes_readHere (some (kept.read depth)) (by simpa using ih))

end Assembly

/-- A text is read to a value just if it is a text of the value. -/
theorem ofText_eq_ok_iff {text : String} {json : Json} :
    ofText text = .ok json ↔ Padded (ValueText maxDepth json) text.toList := by
  refine ⟨fun h => ?_, ofText_of_padded⟩
  unfold ofText Reader.run at h
  split at h
  · cases h
  · next value rest hread =>
    split at h
    · next hrest =>
      cases h
      obtain ⟨taken, htaken, htext⟩ := Assembly.takes_read maxDepth hread
      obtain ⟨blank, hblank, hleft⟩ := exists_blank_skipSpace rest
      rw [hrest, List.append_nil] at hleft
      rw [htext, hleft]
      exact htaken.append hblank
    · cases h

end IdentityForms.Json
