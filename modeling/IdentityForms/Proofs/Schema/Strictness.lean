import IdentityForms.Form.Layout
import IdentityForms.Proofs.Schema.Reading

/-! What the strict policy refuses beyond the lenient one is what a layout reports: a category that
has no fields, and a field that has no order. -/
namespace IdentityForms.Schema

variable {json : Json}

theorem Category.defect?_eq_none {category : Category} : category.defect? = none ↔
    category.fields ≠ [] ∧ ∀ field ∈ category.fields, field.order ≠ none := by
  unfold defect?
  by_cases h : category.fields = []
  · simp [h]
  · simp [h, Option.ne_none_iff_isSome]

theorem Provider.problems_layOut_eq_nil {provider : Provider} {name : String} :
    (provider.layOut name).problems = [] ↔
      ∀ category ∈ provider.categories, category.defect? = none := by
  simp [layOut]

theorem Field.ofJson_strict {field : Field} : ofJson .strict json = .ok field ↔
    ofJson .lenient json = .ok field ∧ field.order ≠ none := by
  rw [ofJson_eq_ok, ofJson_eq_ok]
  constructor
  · rintro ⟨members, hjson, hlabel, horder, hinsist, hrest⟩
    have hordered : orderOf members ≠ none := fun h => nomatch hinsist h
    exact ⟨⟨members, hjson, hlabel, horder, fun _ => rfl, hrest⟩, horder ▸ hordered⟩
  · rintro ⟨⟨members, hjson, hlabel, horder, -, hrest⟩, hordered⟩
    rw [← horder] at hordered
    exact ⟨members, hjson, hlabel, horder, fun h => absurd h hordered, hrest⟩

theorem Category.ofJson_strict {owner name : String} {category : Category} :
    ofJson .strict owner name json = .ok category ↔
      ofJson .lenient owner name json = .ok category ∧ category.defect? = none := by
  simp only [ofJson_eq_ok, Field.ofJson_strict, Except.forall₂_and_right, defect?_eq_none]
  constructor
  · rintro ⟨entries, hjson, hinsist, hname, ⟨hread, hordered⟩, hnodup⟩
    have hentries : entries ≠ [] := fun h => nomatch hinsist h
    refine ⟨⟨entries, hjson, fun _ => trivial, hname, hread, hnodup⟩, ?_, hordered⟩
    intro hfields
    rw [hfields, List.forall₂_nil_right_iff] at hread
    exact hentries hread
  · rintro ⟨⟨entries, hjson, -, hname, hread, hnodup⟩, hfields, hordered⟩
    refine ⟨entries, hjson, ?_, hname, ⟨hread, hordered⟩, hnodup⟩
    rintro rfl
    exact absurd (List.forall₂_nil_left_iff.mp hread) hfields

theorem Provider.ofJson_strict {name : String} {provider : Provider} :
    ofJson .strict name json = .ok provider ↔ ofJson .lenient name json = .ok provider ∧
      ∀ category ∈ provider.categories, category.defect? = none := by
  simp only [ofJson_eq_ok, Category.ofJson_strict, Except.forall₂_and_right]
  constructor
  · rintro ⟨members, hjson, hread, hsound⟩
    exact ⟨⟨members, hjson, hread⟩, hsound⟩
  · rintro ⟨⟨members, hjson, hread⟩, hsound⟩
    exact ⟨members, hjson, hread, hsound⟩

theorem ofJson_strict {schema : Schema} : ofJson .strict json = .ok schema ↔
    ofJson .lenient json = .ok schema ∧ ∀ entry ∈ schema.providers,
      ∀ category ∈ entry.2.categories, category.defect? = none := by
  simp only [ofJson_eq_ok, Provider.ofJson_strict, ← and_assoc, Except.forall₂_and_right]
  constructor
  · rintro ⟨members, ⟨hjson, hread⟩, hsound⟩
    exact ⟨⟨members, hjson, hread⟩, hsound⟩
  · rintro ⟨⟨members, hjson, hread⟩, hsound⟩
    exact ⟨members, ⟨hjson, hread⟩, hsound⟩

/-- The strict policy reads a schema just if the lenient one reads the same and no provider of it is
laid out with a problem, whatever name the selector holds. -/
theorem strict_iff_lenient_and_sound (json : Json) :
    (∀ schema, ofJson .strict json = .ok schema ↔ ofJson .lenient json = .ok schema ∧
      ∀ entry ∈ schema.providers, ∀ name, (entry.2.layOut name).isSound) ∧
    (∀ strict lenient, ofJson .strict json = .ok strict → ofJson .lenient json = .ok lenient →
      strict = lenient) ∧
    (∀ problem, ofJson .lenient json = .error problem →
      ∃ problem', ofJson .strict json = .error problem') := by
  have hlenient {schema : Schema} (h : ofJson .strict json = .ok schema) :
      ofJson .lenient json = .ok schema := (ofJson_strict.mp h).1
  refine ⟨?accepted, ?same, ?rejected⟩
  case accepted =>
    intro schema
    rw [ofJson_strict]
    simp only [Layout.isSound, List.isEmpty_iff, Provider.problems_layOut_eq_nil, forall_const]
  case same =>
    intro strict lenient hstrict hread
    exact Except.ok.inj ((hlenient hstrict).symm.trans hread)
  case rejected =>
    intro problem hproblem
    cases hstrict : ofJson .strict json with
    | error problem' => exact ⟨problem', rfl⟩
    | ok schema => exact absurd (hproblem.symm.trans (hlenient hstrict)) (by simp)

end IdentityForms.Schema
