import IdentityForms.Proofs.Except
import IdentityForms.Schema.Document

/-! What a document must be for a schema to be read from it, and which schema that is. There is one
statement for each kind of node; the policy enters only where something may be left out. -/
namespace IdentityForms.Schema

variable {policy : Policy} {json : Json}

theorem Policy.insist_eq_ok {defect : Defect} :
    policy.insist defect = .ok () ↔ policy = .lenient := by
  cases policy <;> simp [insist]

theorem Field.ofJson_eq_ok {field : Field} : ofJson policy json = .ok field ↔
    ∃ members, json = .object members ∧ labelOf members = .ok field.label ∧
      orderOf members = field.order ∧ (orderOf members = none → policy = .lenient) ∧
        requiredOf members = .ok field.required ∧ validationOf members = .ok field.validation := by
  cases json with
  | object members =>
    simp only [ofJson, Except.do_eq_ok, Except.ite_do_eq_ok, Policy.insist_eq_ok]
    constructor
    · rintro ⟨label, hlabel, hinsist, required, hrequired, validation, hvalidation, h⟩
      cases h
      exact ⟨members, rfl, hlabel, rfl, hinsist, hrequired, hvalidation⟩
    · rintro ⟨_, h, hlabel, horder, hinsist, hrequired, hvalidation⟩
      cases h
      refine ⟨field.label, hlabel, hinsist, field.required, hrequired, field.validation,
        hvalidation, ?_⟩
      rw [horder]
  | _ => simp [ofJson]

theorem Field.listOfJson_eq_ok {place : Nat → Place} {taken : List String} {index : Nat}
    {entries : List Json} {fields : List Field} :
    listOfJson policy place taken index entries = .ok fields ↔
      List.Forall₂ (fun entry field => ofJson policy entry = .ok field) entries fields ∧
        (fields.map (·.label)).Nodup ∧ ∀ field ∈ fields, field.label ∉ taken := by
  -- The labels that are taken grow along the list, so they are general in the induction.
  induction entries generalizing taken index fields with
  | nil =>
    rw [listOfJson, List.forall₂_nil_left_iff, Except.ok.injEq]
    constructor
    · rintro rfl
      exact ⟨rfl, List.nodup_nil, by simp⟩
    · exact fun h => h.1.symm
  | cons entry entries ih =>
    simp only [listOfJson, Except.do_eq_ok, Except.mapError_eq_ok, List.forall₂_cons_left_iff]
    constructor
    · rintro ⟨field, hfield, h⟩
      split at h
      · cases h
      · next hfresh =>
        obtain ⟨rest, hrest, h⟩ := Except.do_eq_ok.mp h
        cases h
        obtain ⟨hread, hnodup, htaken⟩ := ih.mp hrest
        simp only [List.mem_cons, not_or, forall_and] at htaken
        refine ⟨⟨field, rest, hfield, hread, rfl⟩, ?_,
          List.forall_mem_cons.mpr ⟨hfresh, htaken.2⟩⟩
        simpa using ⟨htaken.1, hnodup⟩
    · rintro ⟨⟨field, rest, hfield, hread, rfl⟩, hnodup, htaken⟩
      obtain ⟨hfresh, htaken⟩ := List.forall_mem_cons.mp htaken
      obtain ⟨hlabel, hnodup⟩ := List.nodup_cons.mp hnodup
      have hrest : ∀ other ∈ rest, other.label ∉ field.label :: taken := by
        intro other hother
        rw [List.mem_cons, not_or]
        refine ⟨fun heq => hlabel ?_, htaken other hother⟩
        exact List.mem_map.mpr ⟨other, hother, heq⟩
      refine ⟨field, hfield, ?_⟩
      rw [if_neg hfresh]
      exact Except.do_eq_ok.mpr ⟨rest, ih.mpr ⟨hread, hnodup, hrest⟩, rfl⟩

theorem Category.ofJson_eq_ok {owner name : String} {category : Category} :
    ofJson policy owner name json = .ok category ↔ ∃ entries, json = .array entries ∧
      (entries = [] → policy = .lenient) ∧ category.name = name ∧
        List.Forall₂ (fun entry field => Field.ofJson policy entry = .ok field) entries
          category.fields ∧ (category.fields.map (·.label)).Nodup := by
  cases json with
  | array entries =>
    simp only [ofJson, Except.ite_do_eq_ok, Except.mapError_eq_ok, Policy.insist_eq_ok,
      Except.do_eq_ok, Field.listOfJson_eq_ok]
    constructor
    · rintro ⟨hinsist, fields, ⟨hread, hnodup, -⟩, h⟩
      cases h
      exact ⟨entries, rfl, hinsist, rfl, hread, hnodup⟩
    · rintro ⟨_, h, hinsist, rfl, hread, hnodup⟩
      cases h
      exact ⟨hinsist, category.fields, ⟨hread, hnodup, by simp⟩, rfl⟩
  | _ => simp [ofJson]

theorem Provider.ofJson_eq_ok {name : String} {provider : Provider} :
    ofJson policy name json = .ok provider ↔ ∃ members, json = .object members ∧
      List.Forall₂ (fun member category =>
        Category.ofJson policy name member.1 member.2 = .ok category) members
        provider.categories := by
  cases json with
  | object members =>
    simp only [ofJson, Except.do_eq_ok, Except.mapM_eq_ok]
    constructor
    · rintro ⟨categories, hread, h⟩
      cases h
      exact ⟨members, rfl, hread⟩
    · rintro ⟨_, h, hread⟩
      cases h
      exact ⟨provider.categories, hread, rfl⟩
  | _ => simp [ofJson]

theorem ofJson_eq_ok {schema : Schema} : ofJson policy json = .ok schema ↔
    ∃ members, json = .object members ∧ List.Forall₂ (fun member entry =>
      entry.1 = member.1 ∧ Provider.ofJson policy member.1 member.2 = .ok entry.2) members
      schema.providers := by
  cases json with
  | object members =>
    have hmember (member : String × Json) (entry : String × Provider) :
        (∃ provider, Provider.ofJson policy member.1 member.2 = .ok provider ∧
          Except.ok (ε := Problem) (member.1, provider) = .ok entry) ↔
        entry.1 = member.1 ∧ Provider.ofJson policy member.1 member.2 = .ok entry.2 := by
      constructor
      · rintro ⟨provider, hread, h⟩
        cases h
        exact ⟨rfl, hread⟩
      · rintro ⟨hname, hread⟩
        refine ⟨entry.2, hread, ?_⟩
        rw [← hname]
    simp only [ofJson, Except.do_eq_ok, Except.mapM_eq_ok, hmember]
    constructor
    · rintro ⟨providers, hread, h⟩
      cases h
      exact ⟨members, rfl, hread⟩
    · rintro ⟨_, h, hread⟩
      cases h
      exact ⟨schema.providers, hread, rfl⟩
  | _ => simp [ofJson]

end IdentityForms.Schema
