import IdentityForms.Text.Lowercase

/-! The lower case of a part of a text. A part has the image that it has alone, but for capital
sigmas whose image hangs on what stands around the part. -/
namespace IdentityForms

/-- Whether the first character that case does not ignore has case. Where there is none, what
follows the text decides. -/
def firstCased? (text : List Char) : Option Bool :=
  (text.find? (!caseIgnorable.contains ·)).map cased.contains

/-- The image of a text between two others, of which the former is reversed. -/
def lowercaseBetween (before after : List Char) : List Char → List Char
  | [] => []
  | c :: text =>
    (if c = 'Σ' then [lowerSigma before (text ++ after)] else lowerChar c) ++
      lowercaseBetween (c :: before) after text

variable {before after before' after' text : List Char}

theorem startsCased_eq (text : List Char) : startsCased text = (firstCased? text).getD false := by
  unfold firstCased?
  induction text with
  | nil => rfl
  | cons c text ih => by_cases h : caseIgnorable.contains c <;> simp [startsCased, h, ih]

theorem firstCased?_append (front back : List Char) :
    firstCased? (front ++ back) = (firstCased? front).or (firstCased? back) := by
  simp [firstCased?, List.find?_append, Option.map_or]

theorem lowercaseBetween_nil (before text : List Char) :
    lowercaseBetween before [] text = lowercaseAfter before text := by
  induction text generalizing before with
  | nil => rfl
  | cons c text ih => simp [lowercaseBetween, lowercaseAfter, ih]

theorem lowercaseAfter_append (before front back : List Char) :
    lowercaseAfter before (front ++ back) =
      lowercaseBetween before back front ++ lowercaseAfter (front.reverse ++ before) back := by
  induction front generalizing before with
  | nil => rfl
  | cons c front ih => simp [lowercaseBetween, lowercaseAfter, ih]

/-- Where a part of a text stands, its image is found. -/
theorem lowercase_append (front text back : List Char) :
    lowercase (front ++ text ++ back) = lowercaseBetween [] (text ++ back) front ++
      (lowercaseBetween front.reverse back text ++
        lowercaseAfter (text.reverse ++ front.reverse) back) := by
  rw [lowercase, List.append_assoc, lowercaseAfter_append, List.append_nil, lowercaseAfter_append]

theorem length_lowercaseBetween (before after before' after' text : List Char) :
    (lowercaseBetween before after text).length =
      (lowercaseBetween before' after' text).length := by
  induction text generalizing before before' with
  | nil => rfl
  | cons c text ih =>
    rw [lowercaseBetween, lowercaseBetween, List.length_append, List.length_append,
      ih (c :: before) (c :: before')]
    split <;> rfl

/-- A text has the same image in two surroundings just if each of its capital sigmas has. -/
theorem lowercaseBetween_eq_iff :
    lowercaseBetween before after text = lowercaseBetween before' after' text ↔
      ∀ front back, text = front ++ 'Σ' :: back →
        lowerSigma (front.reverse ++ before) (back ++ after) =
          lowerSigma (front.reverse ++ before') (back ++ after') := by
  induction text generalizing before before' with
  | nil => simp [lowercaseBetween]
  | cons c text ih =>
    have hinj : lowercaseBetween before after (c :: text) =
          lowercaseBetween before' after' (c :: text) ↔
        (c = 'Σ' → lowerSigma before (text ++ after) = lowerSigma before' (text ++ after')) ∧
          lowercaseBetween (c :: before) after text =
            lowercaseBetween (c :: before') after' text := by
      by_cases hc : c = 'Σ' <;> simp [lowercaseBetween, hc]
    rw [hinj, ih]
    constructor
    · rintro ⟨hhead, htail⟩ front back heq
      cases front with
      | nil =>
        obtain ⟨hc, rfl⟩ := List.cons.inj heq
        exact hhead hc
      | cons d front =>
        obtain ⟨rfl, htext⟩ := List.cons.inj heq
        simpa using htail front back htext
    · intro h
      refine ⟨fun hc => h [] text (by rw [hc]; rfl), fun front back htext => ?_⟩
      simpa using h (c :: front) back (by rw [htext]; rfl)

/-- A capital sigma between two texts, of which the former is reversed, has its image from them,
whatever stands around them. -/
def Settled (before after : List Char) : Prop :=
  firstCased? before = some false ∨ firstCased? after = some true ∨
    firstCased? before = some true ∧ firstCased? after = some false

theorem lowerSigma_eq (before after : List Char) : lowerSigma before after =
    if firstCased? before = some true ∧ firstCased? after ≠ some true then 'ς' else 'σ' := by
  unfold lowerSigma
  rw [startsCased_eq, startsCased_eq]
  rcases firstCased? before with _ | _ | _ <;> rcases firstCased? after with _ | _ | _ <;> rfl

theorem Settled.lowerSigma_append (h : Settled before after) (front back : List Char) :
    lowerSigma (before ++ front) (after ++ back) = lowerSigma before after := by
  rw [lowerSigma_eq, lowerSigma_eq, firstCased?_append, firstCased?_append]
  rcases h with h | h | ⟨h, h'⟩
  · simp [h]
  · simp [h]
  · simp [h, h']

theorem not_settled_iff : ¬ Settled before after ↔
    firstCased? before = none ∧ firstCased? after ≠ some true ∨
      firstCased? before = some true ∧ firstCased? after = none := by
  unfold Settled
  rcases firstCased? before with _ | _ | _ <;> rcases firstCased? after with _ | _ | _ <;> simp

/-- A sigma that is not settled changes its image with any letter put on the side that is open. -/
theorem lowerSigma_ne_of_not_settled (h : ¬ Settled before after) :
    (∀ letter, firstCased? [letter] = some true →
      lowerSigma (before ++ [letter]) after ≠ lowerSigma before after) ∨
    (∀ letter, firstCased? [letter] = some true →
      lowerSigma before (after ++ [letter]) ≠ lowerSigma before after) := by
  simp only [lowerSigma_eq, firstCased?_append]
  rcases not_settled_iff.mp h with ⟨hbefore, hafter⟩ | ⟨hbefore, hafter⟩
  · refine .inl fun letter hletter => ?_
    simp [hbefore, hafter, hletter]
  · refine .inr fun letter hletter => ?_
    simp [hbefore, hafter, hletter]

theorem length_lowercase (before after text : List Char) :
    (lowercase text).length = (lowercaseBetween before after text).length := by
  rw [lowercase, ← lowercaseBetween_nil]
  exact length_lowercaseBetween _ _ _ _ _

end IdentityForms
