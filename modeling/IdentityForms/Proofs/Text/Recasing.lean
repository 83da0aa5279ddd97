import IdentityForms.Text.Lowercase

/-! The case of ASCII letters. Both cases of a letter have the same image in lower case, and both
stand in the same way around a capital sigma, so the lower case of a text does not tell them apart. -/
namespace IdentityForms

theorem exists_of_capital {c : Char} (h : 0x41 ≤ c.toNat ∧ c.toNat ≤ 0x5A) :
    ∃ n < 26, c = .ofNat (0x41 + n) := by
  refine ⟨c.toNat - 0x41, by omega, ?_⟩
  rw [Nat.add_sub_cancel' h.1, Char.ofNat_toNat]

theorem toLower_of_not_capital {c : Char} (h : ¬ (0x41 ≤ c.toNat ∧ c.toNat ≤ 0x5A)) :
    c.toLower = c := dif_neg h

/-- What is the same for both cases of each ASCII letter is the same for a character and its lower
case within ASCII, whatever the character. -/
theorem apply_toLower {α : Type} {f : Char → α}
    (h : ∀ n < 26, f (.ofNat (0x61 + n)) = f (.ofNat (0x41 + n))) (c : Char) :
    f c.toLower = f c := by
  by_cases hc : 0x41 ≤ c.toNat ∧ c.toNat ≤ 0x5A
  · obtain ⟨n, hn, rfl⟩ := exists_of_capital hc
    have hlower : ∀ n < 26, (Char.ofNat (0x41 + n)).toLower = .ofNat (0x61 + n) := by decide
    rw [hlower n hn]
    exact h n hn
  · rw [toLower_of_not_capital hc]

theorem RangeTable.contains_eq_false {table : RangeTable} {first last : Nat}
    (hapart : ∀ range ∈ table, range.2 < first ∨ last < range.1) {c : Char}
    (hc : first ≤ c.toNat ∧ c.toNat ≤ last) : table.contains c = false := by
  rw [contains, List.any_eq_false]
  intro range hrange
  have := hapart range hrange
  simp only [Bool.and_eq_true, decide_eq_true_eq]
  omega

/-- No range of the table reaches into the letters of ASCII. -/
theorem caseIgnorable_toLower (c : Char) :
    caseIgnorable.contains c.toLower = caseIgnorable.contains c := by
  have hcapitals : ∀ range ∈ caseIgnorable, range.2 < 0x41 ∨ 0x5A < range.1 := by decide +kernel
  have hsmall : ∀ range ∈ caseIgnorable, range.2 < 0x61 ∨ 0x7A < range.1 := by decide +kernel
  apply apply_toLower
  intro n hn
  rw [RangeTable.contains_eq_false hsmall, RangeTable.contains_eq_false hcapitals]
  · revert n
    decide
  · revert n
    decide

theorem cased_toLower (c : Char) : cased.contains c.toLower = cased.contains c :=
  apply_toLower (by decide +kernel) c

theorem lowerChar_toLower (c : Char) : lowerChar c.toLower = lowerChar c :=
  apply_toLower (by decide +kernel) c

theorem toLower_eq_sigma_iff (c : Char) : c.toLower = 'Σ' ↔ c = 'Σ' :=
  decide_eq_decide.mp (apply_toLower (f := fun c => decide (c = 'Σ')) (by decide) c)

theorem startsCased_map_toLower (text : List Char) :
    startsCased (text.map Char.toLower) = startsCased text := by
  induction text with
  | nil => rfl
  | cons c text ih =>
    rw [List.map_cons, startsCased, startsCased, caseIgnorable_toLower, cased_toLower, ih]

theorem lowerSigma_map_toLower (before after : List Char) :
    lowerSigma (before.map Char.toLower) (after.map Char.toLower) = lowerSigma before after := by
  rw [lowerSigma, lowerSigma, startsCased_map_toLower, startsCased_map_toLower]

theorem lowercaseAfter_map_toLower (before text : List Char) :
    lowercaseAfter (before.map Char.toLower) (text.map Char.toLower) =
      lowercaseAfter before text := by
  induction text generalizing before with
  | nil => rfl
  | cons c text ih =>
    rw [List.map_cons, lowercaseAfter, lowercaseAfter, lowerSigma_map_toLower, lowerChar_toLower,
      ← List.map_cons, ih]
    simp only [toLower_eq_sigma_iff]

theorem lowercase_map_toLower (text : List Char) :
    lowercase (text.map Char.toLower) = lowercase text := lowercaseAfter_map_toLower [] text

end IdentityForms
