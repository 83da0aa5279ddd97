import IdentityForms.Proofs.Except
import IdentityForms.Proofs.Json.Grammar

/-! Strings are read from any of their texts, whatever follows. An escape by code stands for the
character of that code, or for half of one where the code is a surrogate. -/
namespace IdentityForms.Json

namespace Reader

variable {α β : Type} {reader : Reader α} {text rest : List Char} {a : α}

theorem result_map_of_ok (h : reader.result text = .ok (a, rest)) (f : α → β) :
    (reader.map f).result text = .ok (f a, rest) := by
  rw [result_map, h]
  rfl

theorem result_bind_of_ok (h : reader.result text = .ok (a, rest)) (next : α → Reader β) :
    (reader.bind next).result text = (next a).result rest := by
  rw [result_bind, h]
  rfl

theorem result_demand_of_some (h : reader.result text = .ok (a, rest)) {fault : Fault}
    {pick : α → Option β} {b : β} (hpick : pick a = some b) :
    (reader.demand fault pick).result text = .ok (b, rest) := by
  rw [result_demand, h, Except.bind, hpick]

end Reader

variable {strictness : Strictness}

theorem hexValue?_eq_some {value : Nat} {c : Char} (h : HexText value c) (hvalue : value < 16) :
    hexValue? c = some value := by
  have hall : ∀ value < 16, hexValue? (Nat.digitChar value) = some value ∧
      hexValue? (Nat.digitChar value).toUpper = some value := by decide
  rcases h with rfl | rfl
  · exact (hall value hvalue).1
  · exact (hall value hvalue).2

theorem result_hexQuad {code : Nat} {digits : List Char} (h : QuadText code digits)
    (hcode : code < 0x10000) (rest : List Char) :
    hexQuad.result (digits ++ rest) = .ok (code, rest) := by
  obtain ⟨a, _, ha, h₁, rfl⟩ := List.forall₂_cons_left_iff.mp h
  obtain ⟨b, _, hb, h₂, rfl⟩ := List.forall₂_cons_left_iff.mp h₁
  obtain ⟨c, _, hc, h₃, rfl⟩ := List.forall₂_cons_left_iff.mp h₂
  obtain ⟨d, _, hd, h₄, rfl⟩ := List.forall₂_cons_left_iff.mp h₃
  cases h₄
  have hvalue : ((code / 0x1000 * 16 + code / 0x100 % 0x10) * 16 + code / 0x10 % 0x10) * 16 +
      code % 0x10 = code := by omega
  simp only [Reader.result, List.cons_append, List.nil_append, hexQuad,
    hexValue?_eq_some ha (by omega), hexValue?_eq_some hb (by omega),
    hexValue?_eq_some hc (by omega), hexValue?_eq_some hd (by omega), Except.map, Parsed.pair,
    hvalue]

theorem result_exactly (c : Char) (rest : List Char) :
    (exactly c).result (c :: rest) = .ok ((), rest) := by
  exact Reader.result_demand_of_some (result_character_cons c rest) (if_pos rfl)

theorem result_letterEscape {letter c : Char} (h : (letter, c) ∈ letterEscapes)
    (rest : List Char) : (escape strictness).result (letter :: rest) = .ok (c, rest) := by
  have hall : ∀ entry ∈ letterEscapes,
      (escape strictness).result (entry.1 :: rest) = .ok (entry.2, rest) := by
    simp only [letterEscapes, List.forall_mem_cons]
    exact ⟨rfl, rfl, rfl, rfl, rfl, rfl, rfl, rfl, by simp⟩
  exact hall (letter, c) h

theorem result_escape_code (text : List Char) :
    (escape strictness).result ('u' :: text) = (codeEscape strictness).result text :=
  Reader.map_pair_past (codeEscape strictness) text 'u'

theorem result_codeEscape {text rest : List Char} {code : Nat}
    (h : hexQuad.result text = .ok (code, rest)) : (codeEscape strictness).result text =
      if strictness = .full ∧ isTrailingSurrogate code then .error .malformed
      else if strictness = .full ∧ isLeadingSurrogate code then (trailingEscape code).result rest
      else .ok (Char.ofNat code, rest) := by
  obtain ⟨parsed, hparsed, hpair⟩ := Except.map_eq_ok.mp h
  cases hpair
  unfold Reader.result codeEscape
  simp only [hparsed]
  split
  · rfl
  · split
    · exact Reader.map_pair_resume _ _ _
    · rfl

theorem result_code (c : Char) {digits : List Char} (h : c.toNat < 0x10000)
    (hdigits : QuadText c.toNat digits) (rest : List Char) :
    (codeEscape .full).result (digits ++ rest) = .ok (c, rest) := by
  -- A character is no surrogate, so its code stands for it alone.
  have hvalid : c.toNat < 0xD800 ∨ 0xDFFF < c.toNat ∧ c.toNat < 0x110000 := c.valid
  have htrailing : isTrailingSurrogate c.toNat = false := by
    simp [isTrailingSurrogate]
    omega
  have hleading : isLeadingSurrogate c.toNat = false := by
    simp [isLeadingSurrogate]
    omega
  rw [result_codeEscape (result_hexQuad hdigits h rest), if_neg (by simp [htrailing]),
    if_neg (by simp [hleading]), Char.ofNat_toNat]

theorem result_trailingEscape (leading : Nat) {code : Nat} {digits : List Char}
    (h : QuadText code digits) (hcode : code < 0x10000) (rest : List Char) :
    (trailingEscape leading).result ('\\' :: 'u' :: (digits ++ rest)) =
      if isTrailingSurrogate code then .ok (ofSurrogates leading code, rest)
      else .error .malformed := by
  rw [trailingEscape, Reader.result_bind_of_ok (result_exactly _ _),
    Reader.result_bind_of_ok (result_exactly _ _), Reader.result_demand,
    result_hexQuad h hcode, Except.bind]
  cases isTrailingSurrogate code <;> rfl

theorem result_surrogates (c : Char) {leading trailing : List Char} (h : 0x10000 ≤ c.toNat)
    (hleading : QuadText (0xD800 + (c.toNat - 0x10000) / 0x400) leading)
    (htrailing : QuadText (0xDC00 + (c.toNat - 0x10000) % 0x400) trailing) (rest : List Char) :
    (codeEscape .full).result (leading ++ '\\' :: 'u' :: (trailing ++ rest)) = .ok (c, rest) := by
  have hvalid : c.toNat < 0xD800 ∨ 0xDFFF < c.toNat ∧ c.toNat < 0x110000 := c.valid
  generalize hhigh : 0xD800 + (c.toNat - 0x10000) / 0x400 = high at hleading
  generalize hlow : 0xDC00 + (c.toNat - 0x10000) % 0x400 = low at htrailing
  have hfirst : isTrailingSurrogate high = false := by
    simp [isTrailingSurrogate]
    omega
  have hleads : isLeadingSurrogate high = true := by
    simp [isLeadingSurrogate]
    omega
  have htrails : isTrailingSurrogate low = true := by
    simp [isTrailingSurrogate]
    omega
  have hvalue : 0x10000 + (high - 0xD800) * 0x400 + (low - 0xDC00) = c.toNat := by omega
  rw [result_codeEscape (result_hexQuad hleading (by omega) _), if_neg (by simp [hfirst]),
    if_pos ⟨rfl, hleads⟩, result_trailingEscape high htrailing (by omega), if_pos htrails,
    ofSurrogates, hvalue, Char.ofNat_toNat]

theorem result_characters_quote (rest : List Char) :
    Reader.result (characters strictness) ('"' :: rest) = .ok ([], rest) := by
  unfold Reader.result
  rw [characters, if_pos rfl]
  rfl

theorem result_characters_plain {c : Char} (hcontrol : 0x20 ≤ c.toNat) (hquote : c ≠ '"')
    (hslash : c ≠ '\\') (rest : List Char) :
    Reader.result (characters strictness) (c :: rest) =
      Reader.result (Reader.map (c :: ·) (characters strictness)) rest := by
  rw [Reader.result_map]
  unfold Reader.result
  rw [characters, if_neg hquote, if_neg hslash, if_neg (Nat.not_lt.mpr hcontrol)]
  cases characters strictness rest <;> rfl

theorem result_characters_escape (text : List Char) :
    Reader.result (characters strictness) ('\\' :: text) =
      Reader.result ((escape strictness).bind fun c => Reader.map (c :: ·) (characters strictness))
        text := by
  rw [Reader.result_bind]
  simp only [Reader.result_map]
  unfold Reader.result
  rw [characters, if_neg (by decide), if_pos rfl]
  cases escape strictness text with
  | error fault => rfl
  | ok parsed =>
    simp only [Except.map, Except.bind, Parsed.pair]
    cases characters strictness parsed.rest <;> rfl

theorem result_characters_cons {c : Char} {piece : List Char} (h : CharacterText c piece)
    (rest : List Char) : Reader.result (characters .full) (piece ++ rest) =
      Reader.result (Reader.map (c :: ·) (characters .full)) rest := by
  cases h with
  | plain hcontrol hquote hslash => exact result_characters_plain hcontrol hquote hslash rest
  | letter letter hletter =>
    exact (result_characters_escape _).trans
      (Reader.result_bind_of_ok (result_letterEscape hletter rest) _)
  | code digits hsmall hdigits =>
    have hcode := (result_escape_code _).trans (result_code c hsmall hdigits rest)
    exact (result_characters_escape _).trans (Reader.result_bind_of_ok hcode _)
  | surrogates leading trailing hlarge hleading htrailing =>
    have hcode := (result_escape_code _).trans
      (result_surrogates c hlarge hleading htrailing rest)
    have hread := (result_characters_escape _).trans (Reader.result_bind_of_ok hcode _)
    simpa only [List.cons_append, List.append_assoc] using hread

theorem result_characters {cs : List Char} {pieces : List (List Char)}
    (h : List.Forall₂ CharacterText cs pieces) (rest : List Char) :
    Reader.result (characters .full) (pieces.flatten ++ '"' :: rest) = .ok (cs, rest) := by
  induction h with
  | nil => exact result_characters_quote rest
  | cons hpiece _ ih =>
    rw [List.flatten_cons, List.append_assoc, result_characters_cons hpiece, Reader.result_map, ih]
    rfl

/-- A string is read from any of its texts, whatever follows. -/
theorem result_quoted {value : String} {text : List Char} (h : StringText value ('"' :: text))
    (rest : List Char) : (quoted .full).result (text ++ rest) = .ok (value, rest) := by
  obtain ⟨pieces, hpieces, htext⟩ := h
  cases htext
  have hread := Reader.result_map_of_ok (result_characters hpieces rest) String.ofList
  rw [String.ofList_toList] at hread
  rw [List.append_assoc]
  exact hread

theorem StringText.exists_cons {value : String} {text : List Char} (h : StringText value text) :
    ∃ inner, text = '"' :: inner := by
  obtain ⟨pieces, -, rfl⟩ := h
  exact ⟨_, rfl⟩

end IdentityForms.Json
