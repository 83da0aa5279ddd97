import IdentityForms.Proofs.Text.Lowercase
import IdentityForms.Search.Matching

/-! Names that hold a query as it is typed. They are found but for capital sigmas of the query whose
lower case changes with what stands around the query in the name. -/
namespace IdentityForms

/-- Every capital sigma of a text has the same image between two others as when the text stands
alone. -/
def Steady (front text back : List Char) : Prop :=
  ∀ before after, text = before ++ 'Σ' :: after →
    lowerSigma (before.reverse ++ front.reverse) (after ++ back) = lowerSigma before.reverse after

/-- Every capital sigma of a text has its image from the text itself. -/
def SigmasSettled (text : List Char) : Prop :=
  ∀ before after, text = before ++ 'Σ' :: after → Settled before.reverse after

variable {front text back needle : List Char} {c : Char} {query name : String}

theorem steady_iff :
    Steady front text back ↔ lowercaseBetween front.reverse back text = lowercase text := by
  rw [lowercase, ← lowercaseBetween_nil, lowercaseBetween_eq_iff]
  simp only [Steady, List.append_nil]

theorem SigmasSettled.steady (h : SigmasSettled text) (front back : List Char) :
    Steady front text back :=
  fun before after htext => (h before after htext).lowerSigma_append front.reverse back

/-- The empty query is no exception, as its lower case is empty. -/
theorem finds_iff : finds query name ↔ lowercase query.toList <:+: lowercase name.toList := by
  by_cases hquery : query = ""
  · subst hquery
    simp [finds, lowercase, lowercaseAfter]
  · simp [finds, hquery, occursIn_iff]

theorem finds_of_steady (hname : name.toList = front ++ query.toList ++ back)
    (h : Steady front query.toList back) : finds query name := by
  rw [finds_iff, hname, lowercase_append, steady_iff.mp h]
  exact ⟨_, _, List.append_assoc _ _ _⟩

theorem count_matchingNames (names : List String) (query name : String) :
    (matchingNames names query).count name = if finds query name then names.count name else 0 := by
  unfold matchingNames
  split
  · next h => exact List.count_filter h
  · next h =>
    rw [List.count_eq_zero, List.mem_filter]
    exact fun hmem => h hmem.2

theorem eq_of_infix_cons (h : needle <:+: c :: text) (hlength : needle.length = text.length)
    (hhead : needle.head? ≠ some c) : needle = text := by
  rcases List.infix_cons_iff.mp h with hprefix | hinfix
  · cases needle with
    | nil => exact (List.length_eq_zero_iff.mp hlength.symm).symm
    | cons d needle =>
      rw [(List.cons_prefix_cons.mp hprefix).1] at hhead
      exact absurd rfl hhead
  · exact hinfix.eq_of_length hlength

theorem eq_of_infix_concat (h : needle <:+: text ++ [c]) (hlength : needle.length = text.length)
    (hlast : needle.getLast? ≠ some c) : needle = text := by
  have hreverse : needle.reverse <:+: c :: text.reverse := by
    simpa using List.reverse_infix.mpr h
  rw [← List.reverse_inj]
  exact eq_of_infix_cons hreverse (by simpa using hlength) (by simpa using hlast)

/-- A letter that a text does not begin with, or does not end with, whatever the text. -/
theorem exists_letter (edge : Option Char) : ∃ letter, firstCased? [letter] = some true ∧
    letter ≠ 'Σ' ∧ lowerChar letter = [letter] ∧ edge ≠ some letter := by
  by_cases h : edge = some 'a'
  · exact ⟨'b', by decide +kernel, by decide, by decide +kernel, by simp [h]⟩
  · exact ⟨'a', by decide +kernel, by decide, by decide +kernel, h⟩

theorem lowercase_cons {letter : Char} (hsigma : letter ≠ 'Σ')
    (hletter : lowerChar letter = [letter]) (text : List Char) :
    lowercase (letter :: text) = letter :: lowercaseBetween [letter] [] text := by
  rw [lowercase, lowercaseAfter, if_neg hsigma, hletter, lowercaseBetween_nil]
  rfl

theorem lowercase_concat {letter : Char} (hsigma : letter ≠ 'Σ')
    (hletter : lowerChar letter = [letter]) (text : List Char) :
    lowercase (text ++ [letter]) = lowercaseBetween [] [letter] text ++ [letter] := by
  rw [lowercase, lowercaseAfter_append, lowercaseAfter, if_neg hsigma, hletter]
  rfl

/-- A query with a sigma that is not settled does not find itself beside a letter. -/
theorem exists_not_finds (h : ¬ SigmasSettled query.toList) :
    ∃ name : String, query.toList <:+: name.toList ∧ ¬ finds query name := by
  simp only [SigmasSettled, Classical.not_forall] at h
  obtain ⟨before, after, hsplit, hsettled⟩ := h
  rcases lowerSigma_ne_of_not_settled hsettled with hfront | hback
  · obtain ⟨letter, hletter, hsigma, hlower, hedge⟩ :=
      exists_letter (lowercase query.toList).head?
    refine ⟨.ofList (letter :: query.toList), ?_, ?_⟩
    · rw [String.toList_ofList]
      exact List.infix_cons (List.infix_refl _)
    · intro hfinds
      rw [finds_iff, String.toList_ofList, lowercase_cons hsigma hlower] at hfinds
      have heq := eq_of_infix_cons hfinds (length_lowercase _ _ _) hedge
      have hsteady : Steady [letter] query.toList [] := steady_iff.mpr heq.symm
      apply hfront letter hletter
      simpa using hsteady before after hsplit
  · obtain ⟨letter, hletter, hsigma, hlower, hedge⟩ :=
      exists_letter (lowercase query.toList).getLast?
    refine ⟨.ofList (query.toList ++ [letter]), ?_, ?_⟩
    · rw [String.toList_ofList]
      exact (List.prefix_append _ _).isInfix
    · intro hfinds
      rw [finds_iff, String.toList_ofList, lowercase_concat hsigma hlower] at hfinds
      have heq := eq_of_infix_concat hfinds (length_lowercase _ _ _) hedge
      have hsteady : Steady [] query.toList [letter] := steady_iff.mpr heq.symm
      apply hback letter hletter
      simpa using hsteady before after hsplit

/-- A name that holds a query as it is typed is found, as often as it is listed, where each capital
sigma of the query has in the name the image that it has in the query. The queries that are found
wherever they are held are those whose sigmas all have their image from the query itself; each other
query is held by a name that it does not find. -/
theorem literal_query_found (query : String) :
    (∀ (names : List String) (name : String) (front back : List Char),
      name.toList = front ++ query.toList ++ back → Steady front query.toList back →
        (matchingNames names query).count name = names.count name) ∧
    (SigmasSettled query.toList ↔ ∀ (names : List String) (name : String),
      query.toList <:+: name.toList →
        (matchingNames names query).count name = names.count name) := by
  have hfound (names : List String) (name : String) (front back : List Char)
      (hname : name.toList = front ++ query.toList ++ back)
      (hsteady : Steady front query.toList back) :
      (matchingNames names query).count name = names.count name := by
    rw [count_matchingNames, if_pos (finds_of_steady hname hsteady)]
  refine ⟨hfound, ?settled, ?found⟩
  case settled =>
    rintro h names name ⟨front, back, hname⟩
    exact hfound names name front back hname.symm (h.steady front back)
  case found =>
    refine fun h => Classical.byContradiction fun hunsettled => ?_
    obtain ⟨name, hheld, hunfound⟩ := exists_not_finds hunsettled
    have hcount := h [name] name hheld
    rw [count_matchingNames, if_neg hunfound] at hcount
    simp at hcount

/-- The sigma before the blank is the end of a word wherever the query stands. -/
theorem literal_query_found_word : SigmasSettled "ΑΣ Τ".toList ∧
    (matchingNames ["ΜΑΣ ΤΟ", "ας", "ΜΑΣ ΤΟ"] "ΑΣ Τ").count "ΜΑΣ ΤΟ" = 2 := by
  have hsettled : SigmasSettled "ΑΣ Τ".toList := by
    intro before after hsplit
    rcases before with _ | ⟨_, _ | ⟨_, before⟩⟩
    · cases hsplit
    · cases hsplit
      exact .inr (.inr ⟨by decide +kernel, by decide +kernel⟩)
    · have hrest : [' ', 'Τ'] = before ++ 'Σ' :: after := (List.cons.inj (List.cons.inj hsplit).2).2
      have hmem : 'Σ' ∈ [' ', 'Τ'] := by simp [hrest]
      exact absurd hmem (by decide)
  have hheld : "ΑΣ Τ".toList <:+: "ΜΑΣ ΤΟ".toList := ⟨['Μ'], ['Ο'], rfl⟩
  refine ⟨hsettled, ?_⟩
  rw [(literal_query_found "ΑΣ Τ").2.mp hsettled _ _ hheld]
  decide

/-- At the end of the query the sigma is final, in the middle of the name it is not. -/
theorem literal_query_missed :
    "ΑΣ".toList <:+: "ΑΣΑ".toList ∧ matchingNames ["ΑΣΑ"] "ΑΣ" = [] := by
  refine ⟨⟨[], ['Α'], rfl⟩, ?_⟩
  decide +kernel

end IdentityForms
