import IdentityForms.Rule.Token

/-! Texts of digits: runs, and runs joined by single dashes. -/
namespace IdentityForms

/-- One or more ASCII digits. -/
def DigitRun (text : List Char) : Prop := text ≠ [] ∧ ∀ c ∈ text, c.isDigit

/-- Runs of digits joined by single dashes. -/
def DigitGroups (text : List Char) : Prop :=
  ∃ groups, groups ≠ [] ∧ (∀ group ∈ groups, DigitRun group) ∧ text = ['-'].intercalate groups

variable {text : List Char}

theorem isDigits_iff : isDigits text ↔ DigitRun text := by
  simp [isDigits, DigitRun, List.all_eq_true]

theorem DigitRun.not_mem_of_isDigit {c : Char} (h : DigitRun text) (hc : c.isDigit = false) :
    c ∉ text := by
  intro hmem
  rw [h.2 c hmem] at hc
  cases hc

theorem DigitRun.takeWhile_append {c : Char} (h : DigitRun text) (hc : c.isDigit = false)
    (rest : List Char) : (text ++ c :: rest).takeWhile Char.isDigit = text := by
  rw [List.takeWhile_append_of_pos h.2, List.takeWhile_cons_of_neg (by simp [hc]), List.append_nil]

theorem DigitRun.dropWhile_append {c : Char} (h : DigitRun text) (hc : c.isDigit = false)
    (rest : List Char) : (text ++ c :: rest).dropWhile Char.isDigit = c :: rest := by
  rw [List.dropWhile_append_of_pos h.2, List.dropWhile_cons_of_neg (by simp [hc])]

theorem digitRun_toDigits (n : Nat) : DigitRun (Nat.toDigits 10 n) :=
  ⟨Nat.toDigits_ne_nil, fun _ => Nat.isDigit_of_mem_toDigits (by decide) (by decide)⟩

theorem digitRun_cons_cons {c d : Char} :
    DigitRun (c :: d :: text) ↔ c.isDigit ∧ DigitRun (d :: text) := by
  simp [DigitRun]

theorem splitOn_dash_dash : ('-' :: text).splitOn '-' = [] :: text.splitOn '-' := by
  simp [List.splitOn_cons_eq_if_modifyHead]

theorem splitOn_dash_of_ne {c : Char} (hc : c ≠ '-') {group : List Char} {groups : List (List Char)}
    (h : text.splitOn '-' = group :: groups) :
    (c :: text).splitOn '-' = (c :: group) :: groups := by
  simp [List.splitOn_cons_eq_if_modifyHead, hc, h]

theorem isDashedDigits_iff_splitOn :
    isDashedDigits text ↔ ∀ group ∈ text.splitOn '-', DigitRun group := by
  -- The cases are those of the check: after the first character stands the end, a dash or neither.
  fun_induction isDashedDigits text with
  | case1 => simp [DigitRun]
  | case2 c =>
    by_cases hc : c = '-'
    · subst hc
      simp [splitOn_dash_dash, DigitRun]
    · simp [splitOn_dash_of_ne hc (List.splitOn_nil '-'), DigitRun]
  | case3 c d text ihGroups ihRun =>
    by_cases hc : c = '-'
    · subst hc
      simp [splitOn_dash_dash, DigitRun]
    · obtain ⟨group, groups, hsplit⟩ := List.exists_cons_of_ne_nil (List.splitOn_ne_nil '-' text)
      by_cases hd : d = '-'
      · subst hd
        rw [splitOn_dash_of_ne hc splitOn_dash_dash, List.forall_mem_cons, ← ihGroups]
        simp [DigitRun]
      · have hrun := splitOn_dash_of_ne hd hsplit
        rw [splitOn_dash_of_ne hc hrun, List.forall_mem_cons, digitRun_cons_cons]
        rw [hrun, List.forall_mem_cons] at ihRun
        simp [hd, ihRun, and_assoc]

theorem isDashedDigits_iff : isDashedDigits text ↔ DigitGroups text := by
  rw [isDashedDigits_iff_splitOn]
  constructor
  · intro h
    exact ⟨text.splitOn '-', List.splitOn_ne_nil '-' text, h, (List.intercalate_splitOn '-').symm⟩
  · rintro ⟨groups, hne, h, rfl⟩
    have hundashed (group : List Char) (hgroup : group ∈ groups) : '-' ∉ group :=
      (h group hgroup).not_mem_of_isDigit rfl
    rw [List.splitOn_intercalate '-' hundashed hne]
    exact h

end IdentityForms
