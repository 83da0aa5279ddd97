import IdentityForms.Proofs.Json.Brackets

/-! Whatever has the shape of a value is passed over to its end. -/
namespace IdentityForms.Json

section

variable {strictness : Strictness} {mayFail : Prop} {text : List Char}

theorem settles_trailingEscape (hfail : mayFail) (leading : Nat) (h : PieceShape text) :
    Settles mayFail (trailingEscape leading) (fun _ => True) text := by
  cases h with
  | plain c _ _ hslash =>
    refine .inr ⟨hfail, fun rest => ⟨.malformed, ?_⟩⟩
    rw [trailingEscape, Reader.result_bind, List.singleton_append, result_exactly_of_ne hslash]
    rfl
  | letter letter c hletter =>
    have hall : ∀ entry ∈ letterEscapes, entry.1 ≠ 'u' := by decide
    refine .inr ⟨hfail, fun rest => ⟨.malformed, ?_⟩⟩
    rw [trailingEscape, List.cons_append, List.singleton_append,
      Reader.result_bind_of_ok (result_exactly _ _), Reader.result_bind,
      result_exactly_of_ne (hall _ hletter)]
    rfl
  | code code digits hcode hdigits =>
    have hread := result_trailingEscape leading hdigits hcode
    by_cases htrailing : isTrailingSurrogate code
    · simp only [if_pos htrailing] at hread
      exact .inl ⟨_, trivial, hread⟩
    · simp only [if_neg htrailing] at hread
      exact .inr ⟨hfail, fun rest => ⟨_, hread rest⟩⟩

section

variable {code : Nat} {digits : List Char} (hdigits : QuadText code digits) (hcode : code < 0x10000)
include hdigits hcode

/-- An escape by code needs no other after it unless it is read in full and leads a pair. -/
theorem settles_escape_single (h : ¬(strictness = .full ∧ isLeadingSurrogate code)) :
    Settles (strictness = .full) (escape strictness) (fun _ => True) ('u' :: digits) := by
  have hread (rest : List Char) : (escape strictness).result ('u' :: digits ++ rest) = _ :=
    (result_escape_code _).trans (result_codeEscape (result_hexQuad hdigits hcode rest))
  simp only [if_neg h] at hread
  by_cases htrailing : strictness = .full ∧ isTrailingSurrogate code
  · simp only [if_pos htrailing] at hread
    exact .inr ⟨htrailing.1, fun rest => ⟨_, hread rest⟩⟩
  · simp only [if_neg htrailing] at hread
    exact .inl ⟨_, trivial, hread⟩

theorem result_escape_leading (h : strictness = .full ∧ isLeadingSurrogate code)
    (rest : List Char) : (escape strictness).result ('u' :: digits ++ rest) =
      (trailingEscape code).result rest := by
  have htrailing : isTrailingSurrogate code = false := by
    have hleading := h.2
    simp [isLeadingSurrogate, isTrailingSurrogate] at hleading ⊢
    omega
  rw [List.cons_append, result_escape_code, result_codeEscape (result_hexQuad hdigits hcode rest),
    if_neg (by simp [htrailing]), if_pos h]

/-- The first half of a pair is read together with what follows it. -/
theorem settles_escape_pair (h : strictness = .full ∧ isLeadingSurrogate code)
    (hsecond : PieceShape text) :
    Settles (strictness = .full) (escape strictness) (fun _ => True) ('u' :: digits ++ text) := by
  refine (settles_trailingEscape h.1 code hsecond).of_result_eq fun rest => ?_
  rw [List.append_assoc]
  exact result_escape_leading hdigits hcode h (text ++ rest)

end

theorem settles_characters_escape {escaped : List Char}
    (hescape : Settles (strictness = .full) (escape strictness) (fun _ => True) escaped)
    (h : Settles (strictness = .full) (characters strictness) (fun _ => True) text) :
    Settles (strictness = .full) (characters strictness) (fun _ => True)
      ('\\' :: escaped ++ text) :=
  (hescape.bind fun c _ => h.map (f := (c :: ·)) fun _ _ => trivial).of_result_eq
    fun _ => result_characters_escape _

/-- A string is read to its end, whatever its escapes stand for, unless it is read in full and one
of them stands for nothing. -/
theorem settles_characters : ∀ {pieces : List (List Char)}, (∀ piece ∈ pieces, PieceShape piece) →
    Settles (strictness = .full) (characters strictness) (fun _ => True)
      (pieces.flatten ++ ['"'])
  | [], _ => .inl ⟨[], trivial, result_characters_quote⟩
  | piece :: pieces, h => by
    obtain ⟨hpiece, hpieces⟩ := List.forall_mem_cons.mp h
    rw [List.flatten_cons, List.append_assoc]
    cases hpiece with
    | plain c hcontrol hquote hslash =>
      exact ((settles_characters hpieces).map fun _ _ => trivial).of_result_eq fun rest =>
        result_characters_plain hcontrol hquote hslash _
    | letter letter c hletter =>
      exact settles_characters_escape (.inl ⟨c, trivial, result_letterEscape hletter⟩)
        (settles_characters hpieces)
    | code code digits hcode hdigits =>
      by_cases hpair : strictness = .full ∧ isLeadingSurrogate code
      · cases pieces with
        | nil =>
          refine .inr ⟨hpair.1, fun rest => ⟨.malformed, ?_⟩⟩
          rw [List.append_assoc, List.cons_append, result_characters_escape, Reader.result_bind,
            result_escape_leading hdigits hcode hpair]
          rfl
        | cons second pieces =>
          obtain ⟨hsecond, hpieces⟩ := List.forall_mem_cons.mp hpieces
          rw [List.flatten_cons, List.append_assoc, ← List.append_assoc]
          exact settles_characters_escape (settles_escape_pair hdigits hcode hpair hsecond)
            (settles_characters hpieces)
      · exact settles_characters_escape (settles_escape_single hdigits hcode hpair)
          (settles_characters hpieces)

theorem StringShape.quoted (h : StringShape text) (hfail : strictness = .full → mayFail) :
    Quoted mayFail (Json.quoted strictness) (fun _ => True) text := by
  obtain ⟨pieces, hpieces, rfl⟩ := h
  refine ⟨pieces.flatten ++ ['"'], rfl, ?_⟩
  have hread : Settles (strictness = .full) (Json.quoted strictness) (fun _ => True)
      (pieces.flatten ++ ['"']) := (settles_characters hpieces).map fun _ _ => trivial
  exact hread.imp id (And.imp_left hfail)

end

section

variable {depth : Nat} {text : List Char}

namespace Assembly

theorem ensures_scalar_of_shape {α σ : Type} {assembly : Assembly α σ} {mayFail : Prop}
    (hstrict : assembly.strictness = .full → mayFail)
    (hnumber : ∀ numeral text, NumeralText numeral text →
      Ensures mayFail assembly.number (fun _ => True) text) (h : ScalarShape text) :
    Ensures mayFail assembly.scalar (fun _ => True) text := by
  cases h with
  | null => exact (covers_of_result fun rest _ => rfl).ensures trivial
  | true => exact (covers_of_result fun rest _ => rfl).ensures trivial
  | false => exact (covers_of_result fun rest _ => rfl).ensures trivial
  | number numeral _ h => exact ensures_number h (hnumber numeral text h)
  | string _ h => exact (ensures_string assembly (h.quoted hstrict)).imp fun _ _ => trivial

theorem covers_numeral {strictness : Strictness} {numeral : Numeral}
    (h : NumeralText numeral text) : Covers (Json.numeral strictness) numeral text :=
  covers_of_result fun _ => result_numeral h

theorem covers_passedOver_scalar (h : ScalarShape text) : Covers passedOver.scalar () text := by
  refine (ensures_scalar_of_shape nofun (fun numeral text h => ?_) h).imp fun _ _ => rfl
  exact ((covers_numeral h).map fun _ => ()).ensures trivial

/-- A value of the right shape is passed over to its end. -/
theorem covers_passedOver (h : ValueShape depth text) : Covers (passedOver.here depth) () text := by
  induction depth generalizing text with
  | zero => exact ensures_here_of_scalar (ScalarShape.startsScalar h) (covers_passedOver_scalar h)
  | succ depth ih =>
    have hinner {inner text : List Char} (h : ValueShape depth inner)
        (hpadded : Padded (· = inner) text) : Covers (passedOver.read depth) () text := by
      rw [read_eq_spaced]
      refine .spaced ?_ ?_ hpadded
      · rintro _ rfl
        exact h.starts
      · rintro _ rfl
        exact ih h
    cases h with
    | scalar _ h => exact ensures_here_of_scalar h.startsScalar (covers_passedOver_scalar h)
    | array items _ hitems h =>
      obtain ⟨texts, htexts, hbracketed⟩ := h
      have hruns : Runs False (item (passedOver.read depth)) (fun item => Padded (· = item))
          (fun _ => True) items [] :=
        runs_of_preserves (fun item hitem _ _ _ hpadded =>
          (hinner (hitems item hitem) hpadded).map _ |>.ensures trivial) trivial
      refine (ensures_array (fun item hitem _ hpadded => hpadded.imp ?_) htexts hbracketed
        hruns).imp fun _ _ => rfl
      rintro _ rfl
      exact (hitems _ hitem).starts
    | object members _ hmembers h =>
      obtain ⟨texts, htexts, hbracketed⟩ := h
      have hruns : Runs False (passedOver.member (passedOver.read depth)) MemberOf
          (fun _ => True) members () := by
        refine runs_of_preserves ?_ trivial
        rintro member hmember state - _ ⟨key, value, hkey, hvalue, rfl⟩
        have hquoted : Padded (Quoted False (quoted passedOver.strictness) fun _ => True) key :=
          hkey.imp fun _ heq => heq ▸ (hmembers.keys member hmember).quoted nofun
        exact (ensures_member hquoted (hinner (hmembers.values member hmember) hvalue) state).imp
          fun _ _ => trivial
      have hstarts (member : List Char × List Char) (hmember : member ∈ members)
          (text : List Char) (htext : MemberOf member text) : Padded Starts text :=
        htext.starts (hmembers.keys member hmember).starts
      exact (ensures_object hstarts htexts hbracketed hruns).imp fun _ _ => rfl

end Assembly

theorem covers_skip (h : Padded (ValueShape depth) text) : Covers skip () text := by
  obtain ⟨before, inner, after, hbefore, hinner, hafter, rfl⟩ := h
  intro rest hrest
  have hdeep : ValueShape (before ++ (inner ++ after) ++ rest).length inner :=
    hinner.of_length_le (by simp; omega)
  have hread : Covers (Assembly.passedOver.read (before ++ (inner ++ after) ++ rest).length) ()
      (before ++ (inner ++ after)) := by
    rw [Assembly.read_eq_spaced]
    exact .spaced (fun _ => ValueShape.starts) (fun _ => Assembly.covers_passedOver)
      ⟨before, inner, after, hbefore, hdeep, hafter, rfl⟩
  exact hread rest hrest

end

end IdentityForms.Json
