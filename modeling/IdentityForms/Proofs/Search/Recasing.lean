import Mathlib.Data.List.Forall2
import IdentityForms.Proofs.Search.Literal
import IdentityForms.Proofs.Text.Recasing

/-! Searches under another case of ASCII letters. Neither the query nor a name is told apart from
one that differs in the case of such letters only, so the same places of a list are found. -/
namespace IdentityForms

/-- Whether texts differ in nothing but the case of ASCII letters. -/
def SameButCase (left right : String) : Prop :=
  left.toList.map Char.toLower = right.toList.map Char.toLower

/-- The places of the names that a query finds. -/
def matchingPlaces (names : List String) (query : String) : List Nat :=
  names.findIdxs (finds query)

variable {names recased : List String} {query other name left right : String}

theorem SameButCase.lowercase_eq (h : SameButCase left right) :
    lowercase left.toList = lowercase right.toList := by
  rw [← lowercase_map_toLower, h, lowercase_map_toLower]

theorem finds_congr (hquery : SameButCase query other) (hname : SameButCase left right) :
    finds query left = finds other right := by
  rw [Bool.eq_iff_iff, finds_iff, finds_iff, hquery.lowercase_eq, hname.lowercase_eq]

theorem findIdxs_congr {α : Type} {p q : α → Bool} {left right : List α}
    (h : List.Forall₂ (fun a b => p a = q b) left right) (start : Nat) :
    left.findIdxs p start = right.findIdxs q start := by
  induction h generalizing start with
  | nil => rfl
  | cons hhead _ ih => rw [List.findIdxs_cons, List.findIdxs_cons, hhead, ih]

theorem filterMap_findIdxs {α : Type} (p : α → Bool) (front items : List α) :
    (items.findIdxs p front.length).filterMap ((front ++ items)[·]?) = items.filter p := by
  -- The items before the place from which is counted grow along the list.
  induction items generalizing front with
  | nil => rfl
  | cons item items ih =>
    have hself : (front ++ item :: items)[front.length]? = some item := by simp
    have hrest := ih (front ++ [item])
    rw [List.append_assoc, List.singleton_append, List.length_append, List.length_singleton] at hrest
    by_cases hitem : p item
    · rw [List.findIdxs_cons, if_pos hitem, List.filter_cons_of_pos hitem,
        List.filterMap_cons_some hself, hrest]
    · rw [List.findIdxs_cons, if_neg hitem, List.filter_cons_of_neg hitem, hrest]

theorem matchingNames_eq (names : List String) (query : String) :
    matchingNames names query = (matchingPlaces names query).filterMap (names[·]?) :=
  (filterMap_findIdxs (finds query) [] names).symm

/-- A query finds the same places of a list, and so the names there, however the case of ASCII
letters is changed in the query and in the names. -/
theorem ascii_case_ignored (hquery : SameButCase query other)
    (hnames : List.Forall₂ SameButCase names recased) :
    matchingPlaces recased other = matchingPlaces names query ∧
    matchingNames names query = (matchingPlaces names query).filterMap (names[·]?) ∧
    matchingNames recased other = (matchingPlaces names query).filterMap (recased[·]?) := by
  have hplaces : matchingPlaces names query = matchingPlaces recased other :=
    findIdxs_congr (hnames.imp fun _ _ hname => finds_congr hquery hname) 0
  refine ⟨hplaces.symm, matchingNames_eq names query, ?_⟩
  rw [hplaces]
  exact matchingNames_eq recased other

/-- A sigma that a letter follows is not final, even with a full stop between them. -/
theorem ascii_case_ignored_sigma :
    SameButCase "aΣ" "AΣ" ∧
    List.Forall₂ SameButCase ["BAΣ", "aΣb", "zΣ", "aΣ.b", "ΧaΣ"]
      ["baΣ", "AΣB", "ZΣ", "aΣ.B", "ΧAΣ"] ∧
    matchingPlaces ["baΣ", "AΣB", "ZΣ", "aΣ.B", "ΧAΣ"] "AΣ" = [0, 4] := by
  have hquery : SameButCase "aΣ" "AΣ" := by
    unfold SameButCase
    decide
  have hnames : List.Forall₂ SameButCase ["BAΣ", "aΣb", "zΣ", "aΣ.b", "ΧaΣ"]
      ["baΣ", "AΣB", "ZΣ", "aΣ.B", "ΧAΣ"] := by
    unfold SameButCase
    decide
  refine ⟨hquery, hnames, ?_⟩
  rw [(ascii_case_ignored hquery hnames).1]
  decide +kernel

end IdentityForms
