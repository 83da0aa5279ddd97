import Mathlib.Computability.Language
import IdentityForms.Proofs.Rule.Digits

/-! The languages of the two checks on digits. Runs of digits with single dashes between them are
told by a pattern, by what stands next to what, and by the pieces between the dashes; so they can be
joined by a dash and cut at any. -/
namespace IdentityForms

open Computability

def digit : Language Char := {text | ∃ c : Char, c.isDigit ∧ text = [c]}

/-- The pattern `[0-9]+`. -/
def digitRuns : Language Char := digit * digit∗

/-- The pattern `[0-9]+(-[0-9]+)*`. -/
def dashedRuns : Language Char := digitRuns * ({['-']} * digitRuns)∗

/-- Digits and dashes, with a digit at either end and no two dashes side by side. -/
structure DashesInside (text : List Char) : Prop where
  characters : ∀ c ∈ text, c.isDigit ∨ c = '-'
  first : text.head? ≠ some '-'
  last : text.getLast? ≠ some '-'
  apart : text.IsChain fun c d => ¬(c = '-' ∧ d = '-')

variable {text left right : List Char} {c d : Char}

theorem mem_kstar_digit : text ∈ digit∗ ↔ ∀ c ∈ text, c.isDigit := by
  rw [Language.mem_kstar]
  constructor
  · rintro ⟨pieces, rfl, hpieces⟩ c hc
    obtain ⟨piece, hpiece, hmem⟩ := List.mem_flatten.mp hc
    obtain ⟨d, hd, rfl⟩ := hpieces piece hpiece
    rwa [List.mem_singleton.mp hmem]
  · intro h
    refine ⟨text.map fun c => [c], ?_, ?_⟩
    · rw [← List.flatMap_def, List.flatMap_singleton']
    · rw [List.forall_mem_map]
      exact fun c hc => ⟨c, h c hc, rfl⟩

theorem mem_digitRuns : text ∈ digitRuns ↔ DigitRun text := by
  unfold digitRuns DigitRun
  rw [Language.mem_mul]
  constructor
  · rintro ⟨_, ⟨c, hc, rfl⟩, rest, hrest, rfl⟩
    exact ⟨List.cons_ne_nil c rest, List.forall_mem_cons.mpr ⟨hc, mem_kstar_digit.mp hrest⟩⟩
  · rintro ⟨hne, hdigits⟩
    obtain ⟨c, rest, rfl⟩ := List.exists_cons_of_ne_nil hne
    obtain ⟨hc, hrest⟩ := List.forall_mem_cons.mp hdigits
    exact ⟨[c], ⟨c, hc, rfl⟩, rest, mem_kstar_digit.mpr hrest, rfl⟩

/-- What follows the first of some groups is the others, each after its dash. -/
theorem intercalate_dash (group : List Char) (groups : List (List Char)) :
    ['-'].intercalate (group :: groups) = group ++ (groups.map ('-' :: ·)).flatten := by
  induction groups generalizing group with
  | nil => simp
  | cons next groups ih => simp [List.intercalate_cons_cons, ih]

theorem mem_dash_mul : text ∈ ({['-']} : Language Char) * digitRuns ↔
    ∃ group, DigitRun group ∧ text = '-' :: group := by
  rw [Language.mem_mul]
  constructor
  · rintro ⟨_, rfl, group, hgroup, rfl⟩
    exact ⟨group, mem_digitRuns.mp hgroup, rfl⟩
  · rintro ⟨group, hgroup, rfl⟩
    exact ⟨['-'], rfl, group, mem_digitRuns.mpr hgroup, rfl⟩

theorem mem_dashedRuns : text ∈ dashedRuns ↔ DigitGroups text := by
  unfold dashedRuns DigitGroups
  rw [Language.mem_mul]
  simp only [Language.mem_kstar, mem_digitRuns, mem_dash_mul]
  constructor
  · rintro ⟨group, hgroup, _, ⟨pieces, rfl, hpieces⟩, rfl⟩
    have hdash : ∀ piece ∈ pieces, '-' :: piece.tail = piece := by
      intro piece hpiece
      obtain ⟨rest, -, rfl⟩ := hpieces piece hpiece
      rfl
    refine ⟨group :: pieces.map List.tail, List.cons_ne_nil _ _, ?_, ?_⟩
    · rw [List.forall_mem_cons, List.forall_mem_map]
      refine ⟨hgroup, fun piece hpiece => ?_⟩
      obtain ⟨rest, hrest, rfl⟩ := hpieces piece hpiece
      exact hrest
    · have hpieces : pieces.map (fun piece => '-' :: piece.tail) = pieces := by
        rw [List.map_congr_left hdash, List.map_id']
      rw [intercalate_dash, List.map_map, Function.comp_def, hpieces]
  · rintro ⟨groups, hne, hgroups, rfl⟩
    obtain ⟨group, groups, rfl⟩ := List.exists_cons_of_ne_nil hne
    obtain ⟨hgroup, hgroups⟩ := List.forall_mem_cons.mp hgroups
    refine ⟨group, hgroup, _, ⟨groups.map ('-' :: ·), rfl, ?_⟩,
      (intercalate_dash group groups).symm⟩
    rw [List.forall_mem_map]
    exact fun group hmem => ⟨group, hgroups group hmem, rfl⟩

theorem ne_dash_of_isDigit (h : c.isDigit) : c ≠ '-' := by
  rintro rfl
  cases h

theorem DashesInside.isDigit_head (h : DashesInside (c :: text)) : c.isDigit :=
  (h.characters c List.mem_cons_self).resolve_right fun hc => h.first (hc ▸ rfl)

theorem dashesInside_singleton : DashesInside [c] ↔ c.isDigit := by
  constructor
  · exact DashesInside.isDigit_head
  · intro h
    have hc := ne_dash_of_isDigit h
    exact ⟨by simp [h], by simpa using hc, by simpa using hc, .singleton c⟩

/-- A dash has more after it, which begins with a digit. -/
theorem dashesInside_cons_dash :
    DashesInside (c :: '-' :: text) ↔ c.isDigit ∧ text ≠ [] ∧ DashesInside text := by
  constructor
  · intro h
    cases text with
    | nil => exact absurd rfl h.last
    | cons d rest =>
      obtain ⟨-, hapart⟩ := List.isChain_cons_cons.mp h.apart
      obtain ⟨hfirst, hapart⟩ := List.isChain_cons_cons.mp hapart
      refine ⟨h.isDigit_head, List.cons_ne_nil d rest, ?_, ?_, by simpa using h.last, hapart⟩
      · exact fun e he => h.characters e (List.mem_cons_of_mem c (List.mem_cons_of_mem '-' he))
      · exact fun hd => hfirst ⟨rfl, Option.some.inj hd⟩
  · rintro ⟨hc, hne, h⟩
    obtain ⟨d, rest, rfl⟩ := List.exists_cons_of_ne_nil hne
    have hd := ne_dash_of_isDigit h.isDigit_head
    refine ⟨?_, by simpa using ne_dash_of_isDigit hc, by simpa using h.last, ?_⟩
    · exact List.forall_mem_cons.mpr ⟨.inl hc, List.forall_mem_cons.mpr ⟨.inr rfl, h.characters⟩⟩
    · exact .cons_cons (fun h => ne_dash_of_isDigit hc h.1) (.cons_cons (fun h => hd h.2) h.apart)

theorem dashesInside_cons_cons (hd : d ≠ '-') :
    DashesInside (c :: d :: text) ↔ c.isDigit ∧ DashesInside (d :: text) := by
  constructor
  · intro h
    obtain ⟨-, hapart⟩ := List.isChain_cons_cons.mp h.apart
    refine ⟨h.isDigit_head, ?_, by simpa using hd, by simpa using h.last, hapart⟩
    exact fun e he => h.characters e (List.mem_cons_of_mem c he)
  · rintro ⟨hc, h⟩
    refine ⟨List.forall_mem_cons.mpr ⟨.inl hc, h.characters⟩, ?_, by simpa using h.last,
      .cons_cons (fun h => ne_dash_of_isDigit hc h.1) h.apart⟩
    simpa using ne_dash_of_isDigit hc

/-- The check looks at one place after another, and so does the description. -/
theorem isDashedDigits_iff_dashesInside (hne : text ≠ []) :
    isDashedDigits text ↔ DashesInside text := by
  fun_induction isDashedDigits text with
  | case1 => exact absurd rfl hne
  | case2 c => rw [dashesInside_singleton]
  | case3 c d text ihGroups ihRun =>
    by_cases hd : d = '-'
    · subst hd
      rw [dashesInside_cons_dash]
      by_cases htext : text = []
      · simp [htext, isDashedDigits]
      · simp [htext, ihGroups]
    · rw [dashesInside_cons_cons hd]
      simp [hd, ihRun]

theorem isDashedDigits_append_dash : isDashedDigits (left ++ '-' :: right) ↔
    isDashedDigits left ∧ isDashedDigits right := by
  simp only [isDashedDigits_iff_splitOn, List.splitOn_append_cons_self, List.forall_mem_append]

theorem isDigits_iff_isDashedDigits :
    isDigits text ↔ isDashedDigits text ∧ '-' ∉ text := by
  rw [isDigits_iff, isDashedDigits_iff_splitOn]
  constructor
  · intro h
    have hdash : '-' ∉ text := h.not_mem_of_isDigit rfl
    rw [List.splitOn_eq_singleton hdash, List.forall_mem_singleton]
    exact ⟨h, hdash⟩
  · rintro ⟨h, hdash⟩
    rwa [List.splitOn_eq_singleton hdash, List.forall_mem_singleton] at h

namespace Rule

/-- Whether a rule finds nothing wrong with a value. -/
def Passes (rule : Rule) (value : String) (now : Moment) : Prop := rule.failure? value now = none

variable {value : String} {now : Moment}

theorem passes_digits_iff (hvalue : value ≠ "") :
    digits.Passes value now ↔ isDigits value.toList := by
  simp [Passes, failure?, failureOfNonempty?, hvalue]

theorem passes_dashedDigits_iff (hvalue : value ≠ "") :
    dashedDigits.Passes value now ↔ isDashedDigits value.toList := by
  simp [Passes, failure?, failureOfNonempty?, hvalue]

/-- The empty value, which concerns no check on digits, is no text of digits. -/
theorem isDashedDigits_toList_iff :
    isDashedDigits value.toList ↔ value ≠ "" ∧ dashedDigits.Passes value now := by
  by_cases hvalue : value = ""
  · simp [hvalue, isDashedDigits]
  · rw [passes_dashedDigits_iff hvalue, and_iff_right hvalue]

/-- A value passes the check on dashed digits just if it has its form, told in either of three ways,
and the check on digits just if it has no dash besides. Joined by a dash are just the values that
are found when one is cut there. A line break or a character beyond ASCII passes neither check. -/
theorem digit_checks_exact (hvalue : value ≠ "") (now : Moment) :
    (dashedDigits.Passes value now ↔ DashesInside value.toList) ∧
    (dashedDigits.Passes value now ↔ ∀ group ∈ value.toList.splitOn '-', DigitRun group) ∧
    (dashedDigits.Passes value now ↔ value.toList ∈ dashedRuns) ∧
    (digits.Passes value now ↔ value.toList ∈ digitRuns) ∧
    (digits.Passes value now ↔ dashedDigits.Passes value now ∧ '-' ∉ value.toList) ∧
    (∀ left right, dashedDigits.Passes (left ++ "-" ++ right) now ↔
      (left ≠ "" ∧ dashedDigits.Passes left now) ∧ (right ≠ "" ∧ dashedDigits.Passes right now)) ∧
    (∀ c ∈ value.toList, c = '\n' ∨ 128 ≤ c.toNat →
      ¬ dashedDigits.Passes value now ∧ ¬ digits.Passes value now) := by
  have hdashed : dashedDigits.Passes value now ↔ isDashedDigits value.toList :=
    passes_dashedDigits_iff hvalue
  have hdigits : digits.Passes value now ↔ dashedDigits.Passes value now ∧ '-' ∉ value.toList := by
    rw [passes_digits_iff hvalue, hdashed, isDigits_iff_isDashedDigits]
  have hinside : dashedDigits.Passes value now ↔ DashesInside value.toList := by
    rw [hdashed, isDashedDigits_iff_dashesInside (mt String.toList_eq_nil_iff.mp hvalue)]
  refine ⟨hinside, ?_, ?_, ?_, hdigits, ?joined, ?foreign⟩
  · rw [hdashed, isDashedDigits_iff_splitOn]
  · rw [hdashed, isDashedDigits_iff, mem_dashedRuns]
  · rw [passes_digits_iff hvalue, isDigits_iff, mem_digitRuns]
  case joined =>
    intro left right
    have hjoined : left ++ "-" ++ right ≠ "" := by simp
    rw [passes_dashedDigits_iff hjoined, ← isDashedDigits_toList_iff, ← isDashedDigits_toList_iff,
      ← isDashedDigits_append_dash]
    simp
  case foreign =>
    intro c hc hforeign
    have hfails : ¬ dashedDigits.Passes value now := by
      rw [hinside]
      intro h
      rcases h.characters c hc with hdigit | rfl
      · have hascii : c.toNat ≤ 57 := (Char.isDigit_iff_toNat.mp hdigit).2
        rcases hforeign with rfl | hlarge
        · cases hdigit
        · omega
      · revert hforeign
        decide
    exact ⟨hfails, fun h => hfails (hdigits.mp h).1⟩

/-- Three groups, cut at the second dash. -/
theorem digit_checks_exact_groups :
    "12-345-6" ≠ "" ∧ dashedDigits.Passes "12-345-6" ⟨0, 0⟩ ∧ ¬ digits.Passes "12-345-6" ⟨0, 0⟩ ∧
    dashedDigits.Passes "12-345" ⟨0, 0⟩ := by
  have hvalue : "12-345-6" ≠ "" := by decide
  obtain ⟨-, hgroups, -, -, hdigits, hcut, -⟩ := digit_checks_exact hvalue ⟨0, 0⟩
  have hsplit : "12-345-6".toList.splitOn '-' = [['1', '2'], ['3', '4', '5'], ['6']] := by
    decide +kernel
  have hpasses : dashedDigits.Passes "12-345-6" ⟨0, 0⟩ := by
    rw [hgroups, hsplit]
    simp [DigitRun]
  refine ⟨hvalue, hpasses, ?_, ((hcut "12-345" "6").mp hpasses).1.2⟩
  rw [hdigits]
  exact fun h => h.2 (by decide)

end Rule

end IdentityForms
