import IdentityForms.Proofs.Json.Taking
import Mathlib.Algebra.Group.Nat.Defs

/-! Strings and numbers that are read are written in what is taken for them, which is what the
grammar asks of their texts. -/
namespace IdentityForms.Json

theorem hexText_of_hexValue? {c : Char} {value : Nat} (h : hexValue? c = some value) :
    value < 16 ∧ HexText value c := by
  have hall : ∀ code < 128, ∀ value ∈ hexValue? (Char.ofNat code),
      value < 16 ∧ (Char.ofNat code = Nat.digitChar value ∨
        Char.ofNat code = (Nat.digitChar value).toUpper) := by decide
  have hascii : c.toNat < 128 := by
    have hlast : '9'.val.toNat = 57 ∧ 'F'.val.toNat = 70 ∧ 'f'.val.toNat = 102 := ⟨rfl, rfl, rfl⟩
    unfold hexValue? at h
    simp only [Char.isDigit, Bool.and_eq_true, decide_eq_true_eq, Char.le_def,
      UInt32.le_iff_toNat_le] at h
    change c.val.toNat < 128
    split_ifs at h <;> omega
  have hfound := hall c.toNat hascii value
  rw [Char.ofNat_toNat] at hfound
  exact hfound h

theorem takes_hexQuad : hexQuad.Takes fun code taken => code < 0x10000 ∧ QuadText code taken := by
  intro text value rest hread
  unfold Reader.result hexQuad at hread
  split at hread
  · next a b c d rest' =>
    split at hread
    · next va vb vc vd ha hb hc hd =>
      simp only [Except.map, Parsed.pair, Except.ok.injEq, Prod.mk.injEq] at hread
      obtain ⟨rfl, rfl⟩ := hread
      obtain ⟨hva, ha⟩ := hexText_of_hexValue? ha
      obtain ⟨hvb, hb⟩ := hexText_of_hexValue? hb
      obtain ⟨hvc, hc⟩ := hexText_of_hexValue? hc
      obtain ⟨hvd, hd⟩ := hexText_of_hexValue? hd
      refine ⟨[a, b, c, d], ⟨by omega, ?_⟩, rfl⟩
      generalize hcode : ((va * 16 + vb) * 16 + vc) * 16 + vd = code
      have hfirst : code / 0x1000 = va := by omega
      have hsecond : code / 0x100 % 0x10 = vb := by omega
      have hthird : code / 0x10 % 0x10 = vc := by omega
      have hfourth : code % 0x10 = vd := by omega
      unfold QuadText
      rw [hfirst, hsecond, hthird, hfourth]
      exact .cons ha (.cons hb (.cons hc (.cons hd .nil)))
    · cases hread
  · cases hread

theorem takes_trailingEscape (leading : Nat) : (trailingEscape leading).Takes fun c taken =>
    ∃ trailing digits, isTrailingSurrogate trailing ∧ QuadText trailing digits ∧
      c = ofSurrogates leading trailing ∧ taken = '\\' :: 'u' :: digits := by
  refine (takes_exactly '\\').bind fun _ _ hslash => (takes_exactly 'u').bind fun _ _ hletter =>
    takes_hexQuad.demand ?_
  rintro trailing digits _ ⟨-, hdigits⟩ hpick
  rw [Option.ite_none_right_eq_some] at hpick
  obtain ⟨htrailing, hpair⟩ := hpick
  obtain rfl := Option.some.inj hpair
  exact ⟨trailing, digits, htrailing, hdigits, rfl, by rw [hslash, hletter]; rfl⟩

theorem toNat_ofNat {code : Nat} (h : code.isValidChar) : (Char.ofNat code).toNat = code := by
  rw [Char.ofNat, dif_pos h]
  rfl

section

variable {leading trailing : Nat} {digits digits' : List Char}

theorem characterText_ofNat {code : Nat} (hcode : code < 0x10000) (hdigits : QuadText code digits)
    (htrailing : isTrailingSurrogate code = false) (hleading : isLeadingSurrogate code = false) :
    CharacterText (Char.ofNat code) ('\\' :: 'u' :: digits) := by
  have hvalid : code.isValidChar := by
    simp [isTrailingSurrogate, isLeadingSurrogate, Nat.isValidChar] at htrailing hleading ⊢
    omega
  have hvalue := toNat_ofNat hvalid
  exact .code digits (by rwa [hvalue]) (by rwa [hvalue])

theorem characterText_ofSurrogates (hleading : isLeadingSurrogate leading)
    (hdigits : QuadText leading digits) (htrailing : isTrailingSurrogate trailing)
    (hdigits' : QuadText trailing digits') : CharacterText (ofSurrogates leading trailing)
      ('\\' :: 'u' :: (digits ++ '\\' :: 'u' :: digits')) := by
  simp only [isTrailingSurrogate, isLeadingSurrogate, Bool.and_eq_true, decide_eq_true_eq]
    at hleading htrailing
  generalize hcode : 0x10000 + (leading - 0xD800) * 0x400 + (trailing - 0xDC00) = code
  have hvalid : code.isValidChar := by
    unfold Nat.isValidChar
    omega
  have hvalue : (ofSurrogates leading trailing).toNat = code := by
    rw [ofSurrogates, hcode, toNat_ofNat hvalid]
  have hhigh : 0xD800 + (code - 0x10000) / 0x400 = leading := by omega
  have hlow : 0xDC00 + (code - 0x10000) % 0x400 = trailing := by omega
  refine .surrogates digits digits' ?_ ?_ ?_
  · omega
  · rwa [hvalue, hhigh]
  · rwa [hvalue, hlow]

end

theorem result_codeEscape_full (text : List Char) : (codeEscape .full).result text =
    (hexQuad.result text).bind fun read =>
      if isTrailingSurrogate read.1 then .error .malformed
      else if isLeadingSurrogate read.1 then (trailingEscape read.1).result read.2
      else .ok (Char.ofNat read.1, read.2) := by
  cases hread : hexQuad.result text with
  | error fault =>
    have hfault : hexQuad text = .error fault := Except.map_eq_error.mp hread
    unfold Reader.result codeEscape
    rw [hfault]
    rfl
  | ok read =>
    rw [result_codeEscape hread]
    simp [Except.bind]

theorem takes_codeEscape :
    (codeEscape .full).Takes fun c taken => CharacterText c ('\\' :: 'u' :: taken) := by
  intro text value rest hread
  rw [result_codeEscape_full] at hread
  obtain ⟨⟨code, rest'⟩, hquad, hthen⟩ := Except.bind_eq_ok.mp hread
  obtain ⟨digits, ⟨hcode, hdigits⟩, rfl⟩ := takes_hexQuad hquad
  split_ifs at hthen with htrailing hleading
  · obtain ⟨_, ⟨trailing, digits', htrailing', hdigits', hvalue, rfl⟩, rfl⟩ :=
      takes_trailingEscape code hthen
    rw [hvalue]
    exact ⟨_, characterText_ofSurrogates hleading hdigits htrailing' hdigits', by simp⟩
  · cases hthen
    rw [Bool.not_eq_true] at htrailing hleading
    exact ⟨digits, characterText_ofNat hcode hdigits htrailing hleading, rfl⟩

theorem mem_letterEscapes {letter c : Char} (h : letterEscape? letter = some c) :
    (letter, c) ∈ letterEscapes := by
  unfold letterEscape? at h
  split at h <;> cases h <;> decide

theorem takes_escape :
    (escape .full).Takes fun c taken => CharacterText c ('\\' :: taken) := by
  intro text value rest hread
  by_cases hcode : ∃ text', text = 'u' :: text'
  · obtain ⟨text', rfl⟩ := hcode
    rw [result_escape_code] at hread
    obtain ⟨taken, htaken, rfl⟩ := takes_codeEscape hread
    exact ⟨'u' :: taken, htaken, rfl⟩
  · have hletter : (escape .full).result text =
        (character.demand .malformed letterEscape?).result text := by
      unfold Reader.result
      rw [escape]
      exact fun text' h => hcode ⟨text', h⟩
    have htakes : Reader.Takes (character.demand .malformed letterEscape?) fun c taken =>
        CharacterText c ('\\' :: taken) := by
      apply takes_character.demand
      rintro letter _ c rfl hpick
      exact .letter letter (mem_letterEscapes hpick)
    exact htakes (hletter ▸ hread)

theorem takes_characters : Reader.Takes (characters .full) fun cs taken =>
    ∃ pieces, List.Forall₂ CharacterText cs pieces ∧ taken = pieces.flatten ++ ['"'] := by
  intro text
  -- An escape takes several characters, so the induction is on the length of the text.
  induction hlength : text.length using Nat.strongRecOn generalizing text with
  | ind length ih =>
    intro value rest hread
    cases text with
    | nil =>
      unfold Reader.result at hread
      rw [characters] at hread
      cases hread
    | cons c text =>
      by_cases hquote : c = '"'
      · subst hquote
        rw [result_characters_quote] at hread
        cases hread
        exact ⟨['"'], ⟨[], .nil, rfl⟩, rfl⟩
      by_cases hslash : c = '\\'
      · subst hslash
        rw [result_characters_escape, Reader.result_bind] at hread
        obtain ⟨⟨d, rest'⟩, hescape, hthen⟩ := Except.bind_eq_ok.mp hread
        rw [Reader.result_map] at hthen
        obtain ⟨⟨ds, rest''⟩, hcharacters, hpair⟩ := Except.map_eq_ok.mp hthen
        cases hpair
        obtain ⟨escaped, hescaped, rfl⟩ := takes_escape hescape
        obtain ⟨_, ⟨pieces, hpieces, rfl⟩, rfl⟩ :=
          ih rest'.length (by subst hlength; simp only [List.length_cons, List.length_append]; omega)
            rfl hcharacters
        exact ⟨_, ⟨('\\' :: escaped) :: pieces, .cons hescaped hpieces, rfl⟩, by simp⟩
      by_cases hcontrol : 0x20 ≤ c.toNat
      · rw [result_characters_plain hcontrol hquote hslash, Reader.result_map] at hread
        obtain ⟨⟨ds, rest'⟩, hcharacters, hpair⟩ := Except.map_eq_ok.mp hread
        cases hpair
        obtain ⟨_, ⟨pieces, hpieces, rfl⟩, rfl⟩ :=
          ih text.length (by subst hlength; simp) rfl hcharacters
        exact ⟨_, ⟨[c] :: pieces, .cons (.plain hcontrol hquote hslash) hpieces, rfl⟩, by simp⟩
      · unfold Reader.result at hread
        rw [characters, if_neg hquote, if_neg hslash, if_pos (Nat.not_le.mp hcontrol)] at hread
        cases hread

theorem takes_quoted : (quoted .full).Takes fun value taken => StringText value ('"' :: taken) := by
  refine takes_characters.map ?_
  rintro cs _ ⟨pieces, hpieces, rfl⟩
  exact ⟨pieces, by rwa [String.toList_ofList], rfl⟩

theorem takes_digits (strictness : Strictness) :
    (digits strictness).Takes fun ds taken => DigitsText ds ∧ taken = ds := by
  intro text value rest hread
  unfold Reader.result digits at hread
  split at hread
  · cases hread
  · next c text =>
    split at hread
    · next hdigit =>
      cases hread
      refine ⟨_, ⟨⟨List.cons_ne_nil _ _, List.forall_mem_cons.mpr ⟨hdigit, ?_⟩⟩, rfl⟩, ?_⟩
      · exact fun d hd => List.all_eq_true.mp List.all_takeWhile d hd
      · exact congrArg (c :: ·) List.takeWhile_append_dropWhile.symm
    · cases hread

theorem takes_wholeDigits (strictness : Strictness) : (wholeDigits strictness).Takes fun ds taken =>
    DigitsText ds ∧ (ds.head? = some '0' → ds = ['0']) ∧ taken = ds := by
  apply (takes_digits strictness).demand
  rintro ds _ picked ⟨hdigits, rfl⟩ hpick
  rw [Option.ite_none_left_eq_some] at hpick
  obtain ⟨hunpadded, hpick⟩ := hpick
  cases hpick
  exact ⟨hdigits, by simpa using hunpadded, rfl⟩

theorem takes_magnitude (strictness : Strictness) : (magnitude strictness).Takes fun n taken =>
    DigitsText taken ∧ n = Nat.ofDigitChars 10 taken 0 := by
  apply (takes_digits strictness).map
  rintro ds _ ⟨hdigits, rfl⟩
  exact ⟨hdigits, rfl⟩

/-- An exponent after its mark. -/
theorem takes_exponentDigits (strictness : Strictness) :
    (exponentDigits strictness).Takes fun n taken =>
      ∀ mark, mark = 'e' ∨ mark = 'E' → ExponentText (some n) (mark :: taken) := by
  intro text value rest hread
  unfold Reader.result at hread
  rw [exponentDigits.eq_def] at hread
  split at hread
  · rw [Reader.map_pair_past, Reader.result_map] at hread
    obtain ⟨⟨n, rest'⟩, hmagnitude, hpair⟩ := Except.map_eq_ok.mp hread
    cases hpair
    obtain ⟨taken, ⟨hdigits, rfl⟩, rfl⟩ := takes_magnitude strictness hmagnitude
    exact ⟨'-' :: taken, fun mark hmark => .minus mark taken hmark hdigits, rfl⟩
  · rw [Reader.map_pair_past] at hread
    obtain ⟨taken, ⟨hdigits, rfl⟩, rfl⟩ := takes_magnitude strictness hread
    exact ⟨'+' :: taken, fun mark hmark => .plus mark taken hmark hdigits, rfl⟩
  · obtain ⟨taken, ⟨hdigits, rfl⟩, rfl⟩ := takes_magnitude strictness hread
    exact ⟨taken, fun mark hmark => .unsigned mark taken hmark hdigits, rfl⟩

theorem taken_eq_ok {α : Type} {isSign : Char → Bool} {reader : Reader α} {absent a : α}
    {text rest : List Char} (h : taken isSign reader absent text = .ok (a, rest)) :
    a = absent ∧ rest = text ∨
      ∃ c text', isSign c ∧ text = c :: text' ∧ reader.result text' = .ok (a, rest) := by
  unfold taken optional at h
  split at h
  · cases h
    exact .inl ⟨rfl, rfl⟩
  · next c text' =>
    split at h
    · next hsign =>
      refine .inr ⟨c, text', hsign, rfl, ?_⟩
      unfold Reader.result
      cases hparsed : reader text' with
      | error fault =>
        rw [hparsed] at h
        cases h
      | ok parsed =>
        rw [hparsed] at h
        cases h
        rfl
    · cases h
      exact .inl ⟨rfl, rfl⟩

theorem exists_fractionText {strictness : Strictness} {fraction text rest : List Char}
    (h : taken (· = '.') (digits strictness) [] text = .ok (fraction, rest)) :
    ∃ front, FractionText fraction front ∧ text = front ++ rest := by
  rcases taken_eq_ok h with ⟨rfl, rfl⟩ | ⟨c, text', hc, rfl, hread⟩
  · exact ⟨[], .absent, rfl⟩
  · obtain ⟨_, ⟨hdigits, rfl⟩, rfl⟩ := takes_digits strictness hread
    rw [decide_eq_true_eq] at hc
    subst hc
    exact ⟨_, .present _ hdigits, rfl⟩

theorem exists_exponentText {strictness : Strictness} {exponent : Option Int}
    {text rest : List Char} (h : taken (fun c => c = 'e' || c = 'E')
      (Reader.map some (exponentDigits strictness)) none text = .ok (exponent, rest)) :
    ∃ front, ExponentText exponent front ∧ text = front ++ rest := by
  rcases taken_eq_ok h with ⟨rfl, rfl⟩ | ⟨mark, text', hmark, rfl, hread⟩
  · exact ⟨[], .absent, rfl⟩
  · rw [Reader.result_map] at hread
    obtain ⟨⟨n, rest'⟩, hexponent, hpair⟩ := Except.map_eq_ok.mp hread
    cases hpair
    obtain ⟨front, hfront, rfl⟩ := takes_exponentDigits strictness hexponent
    exact ⟨mark :: front, hfront mark (by simpa using hmark), rfl⟩

/-- A numeral is read part by part. -/
theorem exists_of_unsignedNumeral {strictness : Strictness} {negative : Bool}
    {text rest : List Char} {numeral : Numeral}
    (h : (unsignedNumeral strictness negative).result text = .ok (numeral, rest)) :
    ∃ whole fraction exponent rest₁ rest₂, numeral = ⟨negative, whole, fraction, exponent⟩ ∧
      (wholeDigits strictness).result text = .ok (whole, rest₁) ∧
      taken (· = '.') (digits strictness) [] rest₁ = .ok (fraction, rest₂) ∧
      taken (fun c => c = 'e' || c = 'E') (Reader.map some (exponentDigits strictness)) none rest₂ =
        .ok (exponent, rest) := by
  obtain ⟨parsed, hparsed, hpair⟩ := Except.map_eq_ok.mp h
  obtain ⟨⟨whole, rest₁, _⟩, hwhole, hthen⟩ := Except.do_eq_ok.mp hparsed
  obtain ⟨⟨fraction, rest₂, _⟩, hfraction, hthen⟩ := Except.do_eq_ok.mp hthen
  obtain ⟨⟨exponent, rest₃, _⟩, hexponent, hthen⟩ := Except.do_eq_ok.mp hthen
  cases hthen
  cases hpair
  exact ⟨whole, fraction, exponent, rest₁, rest₂, rfl, Except.map_eq_ok.mpr ⟨_, hwhole, rfl⟩,
    Except.map_eq_ok.mpr ⟨_, hfraction, rfl⟩, Except.map_eq_ok.mpr ⟨_, hexponent, rfl⟩⟩

theorem takes_unsignedNumeral (strictness : Strictness) (negative : Bool) :
    (unsignedNumeral strictness negative).Takes fun numeral taken =>
      numeral.negative = negative ∧ MagnitudeText numeral taken := by
  intro text numeral rest hread
  obtain ⟨whole, fraction, exponent, rest₁, rest₂, rfl, hwhole, hfraction, hexponent⟩ :=
    exists_of_unsignedNumeral hread
  obtain ⟨_, ⟨hdigits, hunpadded, rfl⟩, rfl⟩ := takes_wholeDigits strictness hwhole
  obtain ⟨front, hfront, rfl⟩ := exists_fractionText hfraction
  obtain ⟨front', hfront', rfl⟩ := exists_exponentText hexponent
  exact ⟨_, ⟨rfl, hdigits, hunpadded, front, front', hfront, hfront', rfl⟩, by simp⟩

theorem takes_numeral (strictness : Strictness) : (numeral strictness).Takes NumeralText := by
  intro text value rest hread
  unfold Reader.result at hread
  rw [numeral.eq_def] at hread
  split at hread
  · rw [Reader.map_pair_past] at hread
    obtain ⟨taken, ⟨hsign, htaken⟩, rfl⟩ := takes_unsignedNumeral strictness true hread
    exact ⟨'-' :: taken, .minus taken hsign htaken, rfl⟩
  · obtain ⟨taken, ⟨hsign, htaken⟩, htext⟩ := takes_unsignedNumeral strictness false hread
    exact ⟨taken, .unsigned taken hsign htaken, htext⟩

theorem exists_digitChar {c : Char} (h : c.isDigit) : ∃ d < 10, c = Nat.digitChar d := by
  have hall : ∀ code < 58, (Char.ofNat code).isDigit →
      Char.ofNat code = Nat.digitChar (code - 48) := by decide
  have hbounds : 48 ≤ c.toNat ∧ c.toNat ≤ 57 := Char.isDigit_iff_toNat.mp h
  have hdigit := hall c.toNat (by omega)
  rw [Char.ofNat_toNat] at hdigit
  exact ⟨c.toNat - 48, by omega, hdigit h⟩

theorem toDigits_ofDigitChars {ds : List Char} (h : DigitsText ds)
    (hunpadded : ds.head? = some '0' → ds = ['0']) :
    Nat.toDigits 10 (Nat.ofDigitChars 10 ds 0) = ds := by
  induction ds using List.reverseRecOn with
  | nil => exact absurd rfl h.1
  | append_singleton ds c ih =>
    obtain ⟨hds, hc⟩ := List.forall_mem_append.mp h.2
    obtain ⟨d, hd, rfl⟩ := exists_digitChar (hc c List.mem_cons_self)
    rw [Nat.ofDigitChars_append, Nat.ofDigitChars_cons_digitChar_of_lt_ten hd, Nat.ofDigitChars_nil]
    by_cases hempty : ds = []
    · rw [hempty, Nat.ofDigitChars_nil, Nat.mul_zero, Nat.zero_add, Nat.toDigits_of_lt_base hd]
      rfl
    · -- The digits in front begin as the whole does, which is not with a zero.
      have hhead : ds.head? ≠ some '0' := by
        intro hzero
        have hwhole := hunpadded (by rw [List.head?_append_of_ne_nil _ hempty, hzero])
        exact hempty (List.append_inj_left' (hwhole.trans (List.nil_append _).symm) rfl)
      have hfront := ih ⟨hempty, hds⟩ fun hzero => absurd hzero hhead
      have hpos : 0 < Nat.ofDigitChars 10 ds 0 := by
        apply Nat.pos_of_ne_zero
        intro hzero
        rw [hzero] at hfront
        exact hhead (by rw [← hfront]; rfl)
      rw [← Nat.toDigits_append_toDigits (by decide) hpos hd, hfront, Nat.toDigits_of_lt_base hd]

/-- A numeral without a point or an exponent is written as its sign and its digits. -/
theorem NumeralText.eq_of_isInteger {numeral : Numeral} {text : List Char}
    (h : NumeralText numeral text) (hinteger : numeral.isInteger) :
    text = if numeral.negative then '-' :: numeral.whole else numeral.whole := by
  obtain ⟨hfraction, hexponent⟩ : numeral.fraction = [] ∧ numeral.exponent = none := by
    simpa [Numeral.isInteger] using hinteger
  have hdigits {text : List Char} (h : MagnitudeText numeral text) : text = numeral.whole := by
    obtain ⟨fraction, exponent, hfractionText, hexponentText, rfl⟩ := h.parts
    rw [hfraction] at hfractionText
    rw [hexponent] at hexponentText
    have hpoint : fraction = [] := by
      cases hfractionText with
      | absent => rfl
      | present _ hdigits => exact absurd rfl hdigits.1
    cases hexponentText
    rw [hpoint, List.append_nil, List.append_nil]
  cases h with
  | unsigned _ hsign h => rw [hsign, hdigits h]; rfl
  | minus text hsign h => rw [hsign, hdigits h]; rfl

/-- The numeral of an integer is the one that the integer is written as. -/
theorem NumeralText.eq_toList {numeral : Numeral} {text : List Char} {n : Int}
    (h : NumeralText numeral text) (hinteger : numeral.isInteger)
    (hsign : numeral.negative = decide (n < 0))
    (hmagnitude : Nat.ofDigitChars 10 numeral.whole 0 = n.natAbs) :
    text = (toString n).toList := by
  obtain ⟨_, hwhole⟩ := h.exists_magnitude
  have hdigits : numeral.whole = Nat.toDigits 10 n.natAbs := by
    rw [← hmagnitude, toDigits_ofDigitChars hwhole.whole hwhole.unpadded]
  rw [h.eq_of_isInteger hinteger, (numeralText_ofInt n).eq_of_isInteger rfl, hsign, hdigits]
  rfl

/-- A numeral becomes an integer if it is written as one and fits 64 bits. Otherwise, and if it is
minus zero, it becomes a double. -/
theorem Numeral.toNumber?_eq_some {numeral : Numeral} {number : Number}
    (h : numeral.toNumber? = some number) :
    (∃ n : Int, number = .integer n ∧ -2 ^ 63 ≤ n ∧ n < 2 ^ 64 ∧ numeral.isInteger ∧
      numeral.negative = decide (n < 0) ∧ Nat.ofDigitChars 10 numeral.whole 0 = n.natAbs) ∨
    ∃ x, number = .binary x ∧
      (numeral.isInteger → 2 ^ 64 ≤ Nat.ofDigitChars 10 numeral.whole 0 ∨ numeral.negative ∧
        (Nat.ofDigitChars 10 numeral.whole 0 = 0 ∨
          2 ^ 63 < Nat.ofDigitChars 10 numeral.whole 0)) ∧
      numeral.toBinary64? = some x := by
  unfold Numeral.toNumber? at h
  simp only [Nat.pow_eq] at h
  split_ifs at h with hunsigned hnegative
  · obtain ⟨hinteger, hsign, hmax⟩ := hunsigned
    refine .inl ⟨_, (Option.some.inj h).symm, by omega, by omega, hinteger, ?_, by omega⟩
    rw [hsign, eq_comm, decide_eq_false_iff_not]
    omega
  · obtain ⟨hinteger, hsign, hpos, hmax⟩ := hnegative
    refine .inl ⟨_, (Option.some.inj h).symm, by omega, by omega, hinteger, ?_, by omega⟩
    rw [hsign, eq_comm, decide_eq_true_eq]
    omega
  · obtain ⟨x, hread, hx⟩ := Option.map_eq_some_iff.mp h
    refine .inr ⟨x, hx.symm, fun hinteger => ?_, hread⟩
    cases hsign : numeral.negative with
    | false =>
      simp only [hinteger, hsign, true_and] at hunsigned
      exact .inl (Nat.not_lt.mp hunsigned)
    | true =>
      simp only [hinteger, hsign, true_and] at hnegative
      exact .inr ⟨rfl, by omega⟩

theorem numberText_of_toNumber? {numeral : Numeral} {number : Number} {text : List Char}
    (h : NumeralText numeral text) (hnumber : numeral.toNumber? = some number) :
    NumberText number text := by
  rcases Numeral.toNumber?_eq_some hnumber with
    ⟨n, rfl, hmin, hmax, hinteger, hsign, hmagnitude⟩ | ⟨x, rfl, -⟩
  · rw [h.eq_toList hinteger hsign hmagnitude]
    exact .integer n hmin hmax
  · exact .binary numeral x text h hnumber

theorem takes_boundedNumber : boundedNumber.Takes NumberText := by
  apply (takes_numeral .full).demand
  exact fun numeral taken number => numberText_of_toNumber?

end IdentityForms.Json
