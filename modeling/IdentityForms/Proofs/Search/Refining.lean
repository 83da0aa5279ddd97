import IdentityForms.Proofs.Search.Literal
import Mathlib.Data.List.Basic

/-! Refined queries. A query finds itself, and what it finds finds no more than it does, so a search
narrows to that for any query which the former query finds. -/
namespace IdentityForms

/-- What searches for a query and for a refined one have to do with each other in a list of names:
the refined one finds a part of the list that the other finds, and a search among the names that
either has found ends with the names that the refined one finds in the whole list. -/
structure Narrows (names : List String) (query refined : String) : Prop where
  sublist : (matchingNames names refined).Sublist (matchingNames names query)
  stepwise : matchingNames (matchingNames names query) refined = matchingNames names refined
  backward : matchingNames (matchingNames names refined) query = matchingNames names refined

variable {text : List Char} {query refined name : String}

theorem finds_self (query : String) : finds query query := finds_iff.mpr (List.infix_refl _)

theorem finds_trans (hrefined : finds query refined) (hname : finds refined name) :
    finds query name :=
  finds_iff.mpr ((finds_iff.mp hrefined).trans (finds_iff.mp hname))

theorem sigmasSettled_of_notMem (h : 'Σ' ∉ text) : SigmasSettled text := by
  rintro before after rfl
  exact absurd (List.mem_append_right before List.mem_cons_self) h

theorem finds_of_part (hsigma : 'Σ' ∉ query.toList) (hpart : query.toList <:+: refined.toList) :
    finds query refined := by
  obtain ⟨front, back, hrefined⟩ := hpart
  exact finds_of_steady hrefined.symm ((sigmasSettled_of_notMem hsigma).steady front back)

theorem matchingNames_comm (names : List String) (query other : String) :
    matchingNames (matchingNames names query) other =
      matchingNames (matchingNames names other) query := List.filter_comm _ _ names

theorem matchingNames_singleton_self (name : String) : matchingNames [name] name = [name] :=
  List.filter_cons_of_pos (finds_self name)

theorem narrows_of_finds (h : finds query refined) (names : List String) :
    Narrows names query refined := by
  have hbackward : matchingNames (matchingNames names refined) query =
      matchingNames names refined := by
    apply List.filter_eq_self.mpr
    intro name hname
    exact finds_trans h (List.mem_filter.mp hname).2
  refine ⟨?_, ?_, hbackward⟩
  · exact List.monotone_filter_right names fun name hname => finds_trans h hname
  · rw [matchingNames_comm, hbackward]

theorem finds_of_narrows (h : Narrows [refined] query refined) : finds query refined := by
  have hfound : refined ∈ matchingNames [refined] query := by
    apply h.sublist.mem
    rw [matchingNames_singleton_self]
    exact List.mem_singleton_self refined
  exact (List.mem_filter.mp hfound).2

/-- To go on typing narrows a search: a query without capital sigma is narrowed by every query that
it is a part of. The queries that narrow it in every list are those that it finds itself. Searches
for any two queries may be made in either order, and a second search for the same query changes
nothing. -/
theorem refined_search_narrows (query : String) :
    ('Σ' ∉ query.toList → ∀ refined : String, query.toList <:+: refined.toList →
      ∀ names, Narrows names query refined) ∧
    (∀ refined, finds query refined ↔ ∀ names, Narrows names query refined) ∧
    (∀ names other, matchingNames (matchingNames names query) other =
      matchingNames (matchingNames names other) query) ∧
    (∀ names, matchingNames (matchingNames names query) query = matchingNames names query) := by
  refine ⟨?part, ?found, fun names other => matchingNames_comm names query other, ?same⟩
  case part =>
    intro hsigma refined hpart
    exact narrows_of_finds (finds_of_part hsigma hpart)
  case found =>
    intro refined
    exact ⟨narrows_of_finds, fun h => finds_of_narrows (h [refined])⟩
  case same =>
    intro names
    exact (narrows_of_finds (finds_self query) names).stepwise

/-- The name holds a capital that is two characters in lower case. -/
theorem refined_search_narrows_bank :
    'Σ' ∉ "BANK".toList ∧ "BANK".toList <:+: "Ş BANK".toList ∧
    matchingNames (matchingNames ["İŞ BANKASI", "Ziraat Bankası", "BMO"] "BANK") "Ş BANK" =
      ["İŞ BANKASI"] := by
  have hsigma : 'Σ' ∉ "BANK".toList := by decide
  have hpart : "BANK".toList <:+: "Ş BANK".toList := ⟨['Ş', ' '], [], rfl⟩
  refine ⟨hsigma, hpart, ?_⟩
  rw [((refined_search_narrows "BANK").1 hsigma "Ş BANK" hpart _).stepwise]
  decide +kernel

end IdentityForms
