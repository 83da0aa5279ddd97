import IdentityForms.Proofs.Json.Reading

/-! What a reader has taken of a text when it has not failed: a front of it, in which what was read
is written. -/
namespace IdentityForms.Json

variable {α β σ : Type}

namespace Reader

variable {reader first second : Reader α} {R : α → List Char → Prop} {R' : β → List Char → Prop}

/-- Whatever a reader reads is written in what it takes. -/
def Takes (reader : Reader α) (R : α → List Char → Prop) : Prop :=
  ∀ ⦃text : List Char⦄ ⦃value : α⦄ ⦃rest : List Char⦄, reader.result text = .ok (value, rest) →
    ∃ taken, R value taken ∧ text = taken ++ rest

namespace Takes

theorem imp {R' : α → List Char → Prop} (h : reader.Takes R)
    (himp : ∀ value taken, R value taken → R' value taken) : reader.Takes R' := by
  intro text value rest hread
  obtain ⟨taken, hvalue, htext⟩ := h hread
  exact ⟨taken, himp value taken hvalue, htext⟩

theorem map {f : α → β} (h : reader.Takes R)
    (hf : ∀ value taken, R value taken → R' (f value) taken) : (reader.map f).Takes R' := by
  intro text value rest hread
  rw [result_map] at hread
  obtain ⟨⟨a, rest'⟩, hinner, hpair⟩ := Except.map_eq_ok.mp hread
  cases hpair
  obtain ⟨taken, hvalue, htext⟩ := h hinner
  exact ⟨taken, hf a taken hvalue, htext⟩

theorem bind {next : α → Reader β} (h : first.Takes R)
    (hnext : ∀ value taken, R value taken →
      (next value).Takes fun value' taken' => R' value' (taken ++ taken')) :
    (first.bind next).Takes R' := by
  intro text value rest hread
  rw [result_bind] at hread
  obtain ⟨⟨a, rest'⟩, hfirst, hsecond⟩ := Except.bind_eq_ok.mp hread
  obtain ⟨taken, ha, htext⟩ := h hfirst
  obtain ⟨taken', hvalue, rfl⟩ := hnext a taken ha hsecond
  exact ⟨taken ++ taken', hvalue, by rw [htext, List.append_assoc]⟩

theorem demand {fault : Fault} {pick : α → Option β} (h : reader.Takes R)
    (hpick : ∀ value taken picked, R value taken → pick value = some picked → R' picked taken) :
    (reader.demand fault pick).Takes R' := by
  intro text value rest hread
  rw [result_demand] at hread
  obtain ⟨⟨a, rest'⟩, hinner, hpicked⟩ := Except.bind_eq_ok.mp hread
  obtain ⟨taken, ha, htext⟩ := h hinner
  cases hvalue : pick a with
  | none => simp [hvalue] at hpicked
  | some picked =>
    simp only [hvalue, Except.ok.injEq, Prod.mk.injEq] at hpicked
    obtain ⟨rfl, rfl⟩ := hpicked
    exact ⟨taken, hpick a taken picked ha hvalue, htext⟩

theorem orElse (hfirst : first.Takes R) (hsecond : second.Takes R) :
    (first.orElse second).Takes R := by
  intro text value rest hread
  rw [result_orElse] at hread
  cases hinner : first.result text with
  | error fault =>
    rw [hinner] at hread
    exact hsecond hread
  | ok read =>
    rw [hinner] at hread
    cases hread
    exact hfirst hinner

/-- What a reader reads after a character is written in that and what the reader takes. -/
theorem cons {c : Char} (h : reader.Takes fun value taken => R value (c :: taken))
    {text rest : List Char} {value : α} (hread : reader.result text = .ok (value, rest)) :
    ∃ taken, R value taken ∧ c :: text = taken ++ rest := by
  obtain ⟨taken, htaken, rfl⟩ := h hread
  exact ⟨c :: taken, htaken, rfl⟩

end Takes

end Reader

theorem takes_character : character.Takes fun c taken => taken = [c] := by
  intro text value rest hread
  cases text with
  | nil => cases hread
  | cons c text =>
    cases hread
    exact ⟨[c], rfl, rfl⟩

theorem takes_exactly (c : Char) : (exactly c).Takes fun _ taken => taken = [c] := by
  apply takes_character.demand
  rintro d _ _ rfl hpick
  rw [Option.ite_none_right_eq_some] at hpick
  rw [hpick.1]

theorem takes_word (c : Char) (letters : List Char) :
    (word c letters).Takes fun _ taken => taken = c :: letters := by
  induction letters generalizing c with
  | nil => exact takes_exactly c
  | cons d letters ih =>
    apply (takes_exactly c).bind
    rintro _ _ rfl
    exact (ih d).imp fun _ _ heq => congrArg (c :: ·) heq

theorem exists_blank_skipSpace (text : List Char) :
    ∃ blank, Blank blank ∧ text = blank ++ skipSpace text := by
  refine ⟨text.takeWhile isSpace, fun c hc => ?_, List.takeWhile_append_dropWhile.symm⟩
  exact isSpace_iff.mp (List.all_eq_true.mp List.all_takeWhile c hc)

/-- White space before what is read is taken too. -/
theorem takes_spaced {reader : Reader α} {R : α → List Char → Prop} (h : reader.Takes R) :
    (spaced reader).Takes fun value taken =>
      ∃ blank inner, Blank blank ∧ R value inner ∧ taken = blank ++ inner := by
  intro text value rest hread
  rw [result_spaced] at hread
  obtain ⟨blank, hblank, htext⟩ := exists_blank_skipSpace text
  obtain ⟨inner, hvalue, hinner⟩ := h hread
  refine ⟨blank ++ inner, ⟨blank, inner, hblank, hvalue, rfl⟩, ?_⟩
  rw [htext, hinner, List.append_assoc]

theorem takes_separator (close : Char) : (separator close).Takes fun isComma taken =>
    ∃ blank, Blank blank ∧ taken = blank ++ [if isComma then ',' else close] := by
  have hmark : Reader.Takes (character.demand .malformed fun c =>
      if c = ',' then some true else if c = close then some false else none)
      fun isComma taken => taken = [if isComma then ',' else close] := by
    apply takes_character.demand
    rintro c _ isComma rfl hpick
    split at hpick
    · next hc =>
      cases hpick
      rw [hc, if_pos rfl]
    · rw [Option.ite_none_right_eq_some] at hpick
      obtain ⟨hc, hclose⟩ := hpick
      cases hclose
      rw [hc]
      rfl
  refine (takes_spaced hmark).imp ?_
  rintro isComma _ ⟨blank, _, hblank, rfl, rfl⟩
  exact ⟨blank, hblank, rfl⟩

section

variable {close : Char} {part : σ → Reader σ} {put : σ → β → σ} {Q : β → List Char → Prop}
  (hpart : ∀ state, (part state).Takes fun state' taken =>
    ∃ b, Q b taken ∧ state' = put state b)
  (hblank : ∀ b taken blank, Q b taken → Blank blank → Q b (taken ++ blank))
include hpart hblank

/-- One part after another is put into the state. The white space before a comma or the closing
bracket belongs to the part before it. -/
theorem takes_partsFrom (state : σ) :
    Reader.Takes (partsFrom close part state) fun state' taken =>
      ∃ bs texts, texts ≠ [] ∧ List.Forall₂ Q bs texts ∧ state' = bs.foldl put state ∧
        taken = [','].intercalate texts ++ [close] := by
  intro text
  -- A part and the comma after it take something of the text, so the induction is on its length.
  induction hlength : text.length using Nat.strongRecOn generalizing state text with
  | ind length ih =>
    intro value rest hread
    rw [result_partsFrom] at hread
    obtain ⟨⟨state', rest'⟩, hfirst, hthen⟩ := Except.bind_eq_ok.mp hread
    obtain ⟨⟨isComma, rest''⟩, hseparator, hlast⟩ := Except.bind_eq_ok.mp hthen
    obtain ⟨taken, ⟨b, hb, rfl⟩, rfl⟩ := hpart state hfirst
    obtain ⟨_, ⟨blank, hblanks, rfl⟩, rfl⟩ := takes_separator close hseparator
    have hpadded : Q b (taken ++ blank) := hblank b taken blank hb hblanks
    cases isComma with
    | false =>
      cases hlast
      exact ⟨_, ⟨[b], [taken ++ blank], List.cons_ne_nil _ _, .cons hpadded .nil, rfl, rfl⟩,
        by simp⟩
    | true =>
      obtain ⟨_, ⟨bs, texts, hne, htexts, rfl, rfl⟩, rfl⟩ :=
        ih rest''.length (by subst hlength; simp; omega) (put state b) rfl hlast
      refine ⟨_, ⟨b :: bs, (taken ++ blank) :: texts, List.cons_ne_nil _ _,
        .cons hpadded htexts, rfl, rfl⟩, ?_⟩
      obtain ⟨next, texts, rfl⟩ := List.exists_cons_of_ne_nil hne
      simp [List.intercalate_cons_cons]

theorem takes_parts (left : Char) (state : σ) :
    (parts close part state).Takes fun state' taken =>
      ∃ bs texts, List.Forall₂ Q bs texts ∧ state' = bs.foldl put state ∧
        Bracketed left close texts (left :: taken) := by
  apply Reader.Takes.orElse
  · refine (takes_spaced (takes_exactly close)).map ?_
    rintro _ _ ⟨blank, _, hblanks, rfl, rfl⟩
    exact ⟨[], [], .nil, rfl, .empty blank hblanks⟩
  · refine (takes_partsFrom hpart hblank state).imp ?_
    rintro _ _ ⟨bs, texts, hne, htexts, rfl, rfl⟩
    exact ⟨bs, texts, htexts, rfl, .parts texts hne⟩

end

end IdentityForms.Json
