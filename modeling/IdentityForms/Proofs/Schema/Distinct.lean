import IdentityForms.Proofs.Json.Distinct
import IdentityForms.Proofs.Schema.Reading

/-! Schemas that are read from texts. The names of a provider's categories are the keys of an
object, and a repeated label is a defect under either policy, so both are unique. -/
namespace IdentityForms.Schema

/-- A name means at most one category, and a label at most one field of a category. -/
structure Provider.Distinct (provider : Provider) : Prop where
  names : (provider.categories.map (·.name)).Nodup
  labels : ∀ category ∈ provider.categories, (category.fields.map (·.label)).Nodup

variable {policy : Policy} {json : Json}

theorem Provider.distinct_of_ofJson {name : String} {provider : Provider}
    (hjson : json.Distinct) (h : ofJson policy name json = .ok provider) : provider.Distinct := by
  obtain ⟨members, rfl, hread⟩ := ofJson_eq_ok.mp h
  cases hjson with
  | object _ hnames _ =>
    have hcategories : List.Forall₂ (fun member category => category.name = member.1 ∧
        (category.fields.map (·.label)).Nodup) members provider.categories := by
      apply hread.imp
      intro _ _ hcategory
      obtain ⟨_, -, -, hname, -, hlabels⟩ := Category.ofJson_eq_ok.mp hcategory
      exact ⟨hname, hlabels⟩
    obtain ⟨hnamed, hlabels⟩ := Except.forall₂_and_right.mp hcategories
    have hkeys : members.map Prod.fst = provider.categories.map (·.name) := by
      rw [← List.forall₂_eq_eq_eq, List.forall₂_map_left_iff, List.forall₂_map_right_iff]
      exact hnamed.imp fun _ _ h => h.symm
    exact ⟨hkeys ▸ hnames, hlabels⟩

/-- Whatever provider a schema read from a text has, names address its fields without doubt. -/
theorem distinct_of_ofText {text : String} {schema : Schema} (h : ofText policy text = .ok schema)
    {name : String} {provider : Provider} (hprovider : schema.provider? name = some provider) :
    provider.Distinct := by
  obtain ⟨json, hjson, h⟩ := Except.do_eq_ok.mp h
  have hdistinct : json.Distinct := Json.distinct_of_ofText (Except.mapError_eq_ok.mp hjson)
  obtain ⟨members, rfl, hread⟩ := ofJson_eq_ok.mp h
  cases hdistinct with
  | object _ _ hmembers =>
    have hentries := ((List.forall₂_and_left _ _).mpr ⟨hmembers, hread⟩).imp fun _ _ hentry =>
      And.intro trivial (Provider.distinct_of_ofJson hentry.1 hentry.2.2)
    obtain ⟨front, back, hsplit, -⟩ := List.lookup_eq_some_iff.mp hprovider
    have hmem : (name, provider) ∈ schema.providers := by
      rw [show schema.providers = front ++ (name, provider) :: back from hsplit]
      exact List.mem_append_right front List.mem_cons_self
    exact (Except.forall₂_and_right.mp hentries).2 (name, provider) hmem

end IdentityForms.Schema
