import IdentityForms.Proofs.Json.Strings

/-! Numerals are read to what they say where nothing follows that could belong to them, and integers
of 64 bits from what they are written as. -/
namespace IdentityForms.Json

/-- What may stand after a value: white space, a comma or a closing bracket. -/
def endings : List Char := [' ', '\t', '\n', '\r', ',', ']', '}']

def Ends (rest : List Char) : Prop := ∀ c ∈ rest.head?, c ∈ endings

/-- Whether a text does not begin with any of some characters. -/
def Lacks (isSign : Char → Bool) (text : List Char) : Prop := ∀ c ∈ text.head?, isSign c = false

variable {strictness : Strictness} {text rest : List Char}

theorem Ends.lacks (h : Ends rest) {isSign : Char → Bool}
    (hsign : endings.all (!isSign ·)) : Lacks isSign rest := by
  intro c hc
  simpa using List.all_eq_true.mp hsign c (h c hc)

theorem Lacks.takeWhile {isSign : Char → Bool} (h : Lacks isSign rest) :
    rest.takeWhile isSign = [] := by
  cases rest with
  | nil => rfl
  | cons c rest => exact List.takeWhile_cons_of_neg (by simp [h c rfl])

theorem Lacks.dropWhile {isSign : Char → Bool} (h : Lacks isSign rest) :
    rest.dropWhile isSign = rest := by
  cases rest with
  | nil => rfl
  | cons c rest => exact List.dropWhile_cons_of_neg (by simp [h c rfl])

theorem result_digits (h : DigitsText text) (hrest : Lacks Char.isDigit rest) :
    (digits strictness).result (text ++ rest) = .ok (text, rest) := by
  obtain ⟨hne, hdigits⟩ := h
  cases text with
  | nil => exact absurd rfl hne
  | cons c text =>
    rw [List.forall_mem_cons] at hdigits
    have htake : (text ++ rest).takeWhile Char.isDigit = text := by
      rw [List.takeWhile_append_of_pos hdigits.2, hrest.takeWhile, List.append_nil]
    have hdrop : (text ++ rest).dropWhile Char.isDigit = rest := by
      rw [List.dropWhile_append_of_pos hdigits.2, hrest.dropWhile]
    unfold Reader.result
    simp only [List.cons_append, digits, hdigits.1, if_true, Except.map, Parsed.pair, htake, hdrop]

theorem result_wholeDigits (h : DigitsText text)
    (hzero : text.head? = some '0' → text = ['0']) (hrest : Lacks Char.isDigit rest) :
    (wholeDigits strictness).result (text ++ rest) = .ok (text, rest) := by
  refine Reader.result_demand_of_some (result_digits h hrest) (if_neg ?_)
  exact fun hpadded => hpadded.2 (hzero hpadded.1)

theorem result_magnitude (h : DigitsText text) (hrest : Lacks Char.isDigit rest) :
    (magnitude strictness).result (text ++ rest) = .ok (↑(Nat.ofDigitChars 10 text 0), rest) :=
  Reader.result_map_of_ok (result_digits h hrest) _

/-- What `optional` takes, without the bound on what is left. -/
def taken {α : Type} (isSign : Char → Bool) (reader : Reader α) (absent : α) (text : List Char) :
    Except Fault (α × List Char) :=
  (optional isSign reader absent text).map fun (a, rest) => (a, rest.1)

theorem taken_absent {α : Type} {isSign : Char → Bool} (h : Lacks isSign text)
    (reader : Reader α) (absent : α) : taken isSign reader absent text = .ok (absent, text) := by
  unfold taken optional
  cases text with
  | nil => rfl
  | cons c text =>
    simp only [h c rfl]
    rfl

theorem taken_present {α : Type} {isSign : Char → Bool} {c : Char} (h : isSign c)
    {reader : Reader α} {a : α} (hread : reader.result text = .ok (a, rest)) (absent : α) :
    taken isSign reader absent (c :: text) = .ok (a, rest) := by
  obtain ⟨parsed, hparsed, hpair⟩ := Except.map_eq_ok.mp hread
  cases hpair
  unfold taken optional
  simp only [h, hparsed, if_true]
  rfl

theorem result_unsignedNumeral {negative : Bool} {whole fraction rest' rest'' : List Char}
    {exponent : Option Int}
    (hwhole : (wholeDigits strictness).result text = .ok (whole, rest))
    (hfraction : taken (· = '.') (digits strictness) [] rest = .ok (fraction, rest'))
    (hexponent : taken (fun c => c = 'e' || c = 'E')
      (Reader.map some (exponentDigits strictness)) none rest' = .ok (exponent, rest'')) :
    (unsignedNumeral strictness negative).result text =
      .ok (⟨negative, whole, fraction, exponent⟩, rest'') := by
  obtain ⟨parsed, hparsed, hpair⟩ := Except.map_eq_ok.mp hwhole
  cases hpair
  obtain ⟨⟨_, rest', _⟩, hoptional, hpair⟩ := Except.map_eq_ok.mp hfraction
  cases hpair
  obtain ⟨⟨_, rest'', _⟩, hoptional', hpair⟩ := Except.map_eq_ok.mp hexponent
  cases hpair
  unfold Reader.result unsignedNumeral
  simp only [hparsed, hoptional, hoptional', bind, Except.bind]
  rfl

theorem DigitsText.append_ne (h : DigitsText text) {sign : Char} (hsign : sign.isDigit = false)
    (rest tail : List Char) : text ++ rest ≠ sign :: tail := by
  intro heq
  cases text with
  | nil => exact h.1 rfl
  | cons c text =>
    have hdigit : c.isDigit := h.2 c List.mem_cons_self
    rw [(List.cons.inj heq).1, hsign] at hdigit
    cases hdigit

theorem result_exponentDigits_unsigned (h : DigitsText text) (hrest : Lacks Char.isDigit rest) :
    (exponentDigits strictness).result (text ++ rest) =
      .ok (↑(Nat.ofDigitChars 10 text 0), rest) := by
  have hmagnitude : exponentDigits strictness (text ++ rest) =
      magnitude strictness (text ++ rest) := by
    rw [exponentDigits]
    · exact h.append_ne (by decide) rest
    · exact h.append_ne (by decide) rest
  rw [Reader.result, hmagnitude]
  exact result_magnitude h hrest

theorem result_exponentDigits_plus (h : DigitsText text) (hrest : Lacks Char.isDigit rest) :
    (exponentDigits strictness).result ('+' :: text ++ rest) =
      .ok (↑(Nat.ofDigitChars 10 text 0), rest) :=
  (Reader.map_pair_past _ _ _).trans (result_magnitude h hrest)

theorem result_exponentDigits_minus (h : DigitsText text) (hrest : Lacks Char.isDigit rest) :
    (exponentDigits strictness).result ('-' :: text ++ rest) =
      .ok (-↑(Nat.ofDigitChars 10 text 0), rest) :=
  (Reader.map_pair_past _ _ _).trans (Reader.result_map_of_ok (result_magnitude h hrest) _)

theorem taken_exponent {exponent : Option Int} (h : ExponentText exponent text)
    (hrest : Ends rest) : taken (fun c => c = 'e' || c = 'E')
      (Reader.map some (exponentDigits strictness)) none (text ++ rest) =
        .ok (exponent, rest) := by
  have hdigits : Lacks Char.isDigit rest := hrest.lacks (by decide)
  have hsign {mark : Char} (hmark : mark = 'e' ∨ mark = 'E') :
      (mark = 'e' || mark = 'E') = true := by simpa using hmark
  cases h with
  | absent => exact taken_absent (hrest.lacks (by decide)) _ _
  | unsigned mark digits hmark h =>
    exact taken_present (hsign hmark)
      (Reader.result_map_of_ok (result_exponentDigits_unsigned h hdigits) some) none
  | plus mark digits hmark h =>
    exact taken_present (hsign hmark)
      (Reader.result_map_of_ok (result_exponentDigits_plus h hdigits) some) none
  | minus mark digits hmark h =>
    exact taken_present (hsign hmark)
      (Reader.result_map_of_ok (result_exponentDigits_minus h hdigits) some) none

theorem ExponentText.lacks {exponent : Option Int} (h : ExponentText exponent text)
    (hrest : Ends rest) {isSign : Char → Bool} (hsign : (endings ++ ['e', 'E']).all (!isSign ·)) :
    Lacks isSign (text ++ rest) := by
  simp only [List.all_append, List.all_cons, List.all_nil, Bool.and_true, Bool.and_eq_true,
    Bool.not_eq_true'] at hsign
  have hmark {mark : Char} (hmark : mark = 'e' ∨ mark = 'E') : isSign mark = false := by
    rcases hmark with rfl | rfl
    · exact hsign.2.1
    · exact hsign.2.2
  cases h with
  | absent => exact hrest.lacks hsign.1
  | unsigned mark digits h => exact fun c hc => Option.some.inj hc ▸ hmark h
  | plus mark digits h => exact fun c hc => Option.some.inj hc ▸ hmark h
  | minus mark digits h => exact fun c hc => Option.some.inj hc ▸ hmark h

theorem taken_fraction {fraction : List Char} (h : FractionText fraction text)
    (hdigits : Lacks Char.isDigit rest) (hpoint : Lacks (· = '.') rest) :
    taken (· = '.') (digits strictness) [] (text ++ rest) = .ok (fraction, rest) := by
  cases h with
  | absent => exact taken_absent hpoint _ _
  | present _ h => exact taken_present (by decide) (result_digits h hdigits) []

theorem FractionText.lacks_isDigit {fraction : List Char} (h : FractionText fraction text)
    (hrest : Lacks Char.isDigit rest) : Lacks Char.isDigit (text ++ rest) := by
  cases h with
  | absent => exact hrest
  | present _ _ => exact fun c hc => Option.some.inj hc ▸ by decide

theorem result_unsignedNumeral_of_text {numeral : Numeral} (h : MagnitudeText numeral text)
    (hrest : Ends rest) : (unsignedNumeral strictness numeral.negative).result (text ++ rest) =
      .ok (numeral, rest) := by
  obtain ⟨fraction, exponent, hfraction, hexponent, rfl⟩ := h.parts
  have hdigits : Lacks Char.isDigit (exponent ++ rest) := hexponent.lacks hrest (by decide)
  have hpoint : Lacks (· = '.') (exponent ++ rest) := hexponent.lacks hrest (by decide)
  rw [List.append_assoc, List.append_assoc]
  exact result_unsignedNumeral
    (result_wholeDigits h.whole h.unpadded (hfraction.lacks_isDigit hdigits))
    (taken_fraction hfraction hdigits hpoint) (taken_exponent hexponent hrest)

theorem result_numeral {numeral : Numeral} (h : NumeralText numeral text) (hrest : Ends rest) :
    (Json.numeral strictness).result (text ++ rest) = .ok (numeral, rest) := by
  cases h with
  | minus text hsign h =>
    exact (Reader.map_pair_past _ _ _).trans (hsign ▸ result_unsignedNumeral_of_text h hrest)
  | unsigned _ hsign h =>
    have hunsigned : Json.numeral strictness (text ++ rest) =
        unsignedNumeral strictness false (text ++ rest) := by
      obtain ⟨fraction, exponent, -, -, rfl⟩ := h.parts
      rw [Json.numeral]
      rw [List.append_assoc]
      exact h.whole.append_ne (by decide) _
    rw [Reader.result, hunsigned, ← Reader.result, ← hsign]
    exact result_unsignedNumeral_of_text h hrest

/-- The numeral that an integer is written as. -/
def Numeral.ofInt (n : Int) : Numeral := ⟨n < 0, Nat.toDigits 10 n.natAbs, [], none⟩

theorem digitsText_toDigits (n : Nat) : DigitsText (Nat.toDigits 10 n) :=
  ⟨Nat.toDigits_ne_nil, fun _ => Nat.isDigit_of_mem_toDigits (by decide) (by decide)⟩

theorem toDigits_of_head? {n : Nat} (h : (Nat.toDigits 10 n).head? = some '0') :
    Nat.toDigits 10 n = ['0'] := by
  induction n using Nat.strongRecOn with
  | ind n ih =>
    by_cases hsmall : n < 10
    · rw [Nat.toDigits_of_lt_base hsmall] at h ⊢
      rw [Option.some.inj h]
    · -- The digit in front is that of a tenth, which is not zero.
      rw [Nat.toDigits_of_base_le (by decide) (Nat.not_lt.mp hsmall),
        List.head?_append_of_ne_nil _ Nat.toDigits_ne_nil] at h
      have hzero := congrArg (Nat.ofDigitChars 10 · 0) (ih (n / 10) (by omega) h)
      simp only [Nat.ofDigitChars_ten_toDigits] at hzero
      have hpos : n / 10 ≠ 0 := by omega
      exact absurd hzero hpos

theorem magnitudeText_ofInt (n : Int) :
    MagnitudeText (.ofInt n) (Nat.toDigits 10 n.natAbs) where
  whole := digitsText_toDigits n.natAbs
  unpadded := toDigits_of_head?
  parts := ⟨[], [], .absent, .absent, by simp [Numeral.ofInt]⟩

theorem numeralText_ofInt (n : Int) : NumeralText (.ofInt n) (toString n).toList := by
  have hmagnitude := magnitudeText_ofInt n
  cases n with
  | ofNat n =>
    rw [Int.toString_eq_repr, Int.repr, Nat.toList_repr]
    exact .unsigned _ (by simp [Numeral.ofInt]) hmagnitude
  | negSucc n =>
    rw [Int.toString_eq_repr, Int.repr, String.toList_append, Nat.toList_repr]
    exact .minus _ (by simp [Numeral.ofInt]) hmagnitude

theorem Numeral.toNumber?_ofInt {n : Int} (hmin : -2 ^ 63 ≤ n) (hmax : n < 2 ^ 64) :
    (ofInt n).toNumber? = some (.integer n) := by
  have hmagnitude : Nat.ofDigitChars 10 (ofInt n).whole 0 = n.natAbs :=
    Nat.ofDigitChars_ten_toDigits
  have hinteger : (ofInt n).isInteger = true := rfl
  unfold toNumber?
  simp only [hmagnitude, hinteger, true_and, Nat.pow_eq]
  by_cases hneg : n < 0
  · have hsign : (ofInt n).negative = true := by simpa [ofInt] using hneg
    rw [if_neg (by simp [hsign]), if_pos ⟨hsign, by omega, by omega⟩]
    congr 2
    omega
  · have hsign : (ofInt n).negative = false := by simpa [ofInt] using hneg
    rw [if_pos ⟨hsign, by omega⟩]
    congr 2
    omega

theorem NumberText.exists_numeral {number : Number} (h : NumberText number text) :
    ∃ numeral : Numeral, NumeralText numeral text ∧ numeral.toNumber? = some number := by
  cases h with
  | integer n hmin hmax =>
    exact ⟨.ofInt n, numeralText_ofInt n, Numeral.toNumber?_ofInt hmin hmax⟩
  | binary numeral x _ h hvalue => exact ⟨numeral, h, hvalue⟩

theorem result_boundedNumber {number : Number} (h : NumberText number text) (hrest : Ends rest) :
    boundedNumber.result (text ++ rest) = .ok (number, rest) := by
  obtain ⟨numeral, hnumeral, hvalue⟩ := h.exists_numeral
  exact Reader.result_demand_of_some (result_numeral hnumeral hrest) hvalue

theorem MagnitudeText.exists_cons {numeral : Numeral} (h : MagnitudeText numeral text) :
    ∃ c tail, text = c :: tail ∧ c.isDigit := by
  obtain ⟨fraction, exponent, -, -, rfl⟩ := h.parts
  obtain ⟨c, tail, hwhole⟩ := List.exists_cons_of_ne_nil h.whole.1
  refine ⟨c, tail ++ (fraction ++ exponent), by rw [hwhole, List.cons_append], ?_⟩
  exact h.whole.2 c (hwhole ▸ List.mem_cons_self)

theorem NumeralText.exists_cons {numeral : Numeral} (h : NumeralText numeral text) :
    ∃ c tail, text = c :: tail ∧ (c = '-' ∨ c.isDigit) := by
  cases h with
  | minus text _ _ => exact ⟨'-', text, rfl, .inl rfl⟩
  | unsigned _ _ h =>
    obtain ⟨c, tail, htext, hdigit⟩ := h.exists_cons
    exact ⟨c, tail, htext, .inr hdigit⟩

end IdentityForms.Json
