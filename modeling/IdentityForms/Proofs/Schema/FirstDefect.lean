import IdentityForms.Proofs.Schema.Refusal

/-! The defect that is reported for a document. It is the first: all that stands before it in the
document, and so is read before it, is fit to be read on its own. There is one relation for each
kind of node, which says what the reader of such nodes reports, and where. -/
namespace IdentityForms.Schema

/-- A place and a defect that is there, with the texts that tell of them. -/
structure Report where
  place : Place
  path : String
  defect : Defect
  message : String

/-- What is reported for a category. -/
inductive Category.FirstDefect (policy : Policy) (owner name : String) : Json → Report → Prop where
  | notFields {json : Json} (hjson : ∀ items, json ≠ .array items) :
      FirstDefect policy owner name json
        ⟨.category (some owner) name, owner ++ "/" ++ name, .notFields,
          "expected an array of fields"⟩
  | noFields (hpolicy : policy = .strict) :
      FirstDefect policy owner name (.array [])
        ⟨.category (some owner) name, owner ++ "/" ++ name, .noFields, "category has no fields"⟩
  | entry {entries : List Entry} {item : Json} {rest : List Json} {defect : Defect}
      {message : String} (hentries : Entry.Sound policy entries)
      (hitem : Entry.Unfit policy entries item defect message) :
      FirstDefect policy owner name (.array (entries.map .object ++ item :: rest))
        ⟨.entry owner name entries.length,
          owner ++ "/" ++ name ++ "[" ++ toString entries.length ++ "]", defect, message⟩

inductive Provider.FirstDefect (policy : Policy) (name : String) : Json → Report → Prop where
  | notCategories {json : Json} (hjson : ∀ categories, json ≠ .object categories) :
      FirstDefect policy name json
        ⟨.provider name, name, .notCategories, "expected an object of categories"⟩
  | category {before after : List (String × Json)} {category : String} {json : Json}
      {report : Report} (hbefore : ∀ earlier ∈ before, Category.Legible policy earlier.2)
      (hcategory : Category.FirstDefect policy name category json report) :
      FirstDefect policy name (.object (before ++ (category, json) :: after)) report

/-- What is reported for a document. -/
inductive FirstDefect (policy : Policy) : Json → Report → Prop where
  | notProviders {json : Json} (hjson : ∀ providers, json ≠ .object providers) :
      FirstDefect policy json ⟨.whole, "$", .notProviders, "expected an object of providers"⟩
  | provider {before after : List (String × Json)} {name : String} {json : Json} {report : Report}
      (hbefore : ∀ earlier ∈ before, Provider.Legible policy earlier.2)
      (hprovider : Provider.FirstDefect policy name json report) :
      FirstDefect policy (.object (before ++ (name, json) :: after)) report

variable {policy : Policy} {json : Json} {report : Report} {problem : Problem}

theorem Category.FirstDefect.text_eq {owner name : String}
    (h : Category.FirstDefect policy owner name json report) :
    report.place.text = report.path ∧ report.defect.text = report.message := by
  cases h with
  | notFields => exact ⟨rfl, rfl⟩
  | noFields => exact ⟨rfl, rfl⟩
  | entry _ hitem => exact ⟨rfl, hitem.text_eq⟩

theorem Provider.FirstDefect.text_eq {name : String}
    (h : Provider.FirstDefect policy name json report) :
    report.place.text = report.path ∧ report.defect.text = report.message := by
  cases h with
  | notCategories => exact ⟨rfl, rfl⟩
  | category _ hcategory => exact hcategory.text_eq

theorem FirstDefect.text_eq (h : FirstDefect policy json report) :
    report.place.text = report.path ∧ report.defect.text = report.message := by
  cases h with
  | notProviders => exact ⟨rfl, rfl⟩
  | provider _ hprovider => exact hprovider.text_eq

theorem Category.ofJson_eq_error {owner name : String} :
    ofJson policy owner name json = .error problem ↔
      ∃ report, FirstDefect policy owner name json report ∧
        problem = .defective report.place report.defect := by
  cases json with
  | array items =>
    simp only [ofJson, Except.ite_do_eq_error, Except.mapError_eq_error, Except.mapError_eq_ok,
      Policy.insist_eq_error, Policy.insist_eq_ok, Except.do_eq_error, Field.listOfJson_eq_error,
      reduceCtorEq, and_false, exists_false, or_false, List.append_nil, Nat.zero_add]
    constructor
    · rintro (⟨rfl, cause, ⟨hpolicy, rfl⟩, rfl⟩ |
        ⟨-, before, item, after, rfl, fields, defect, hread, hrefused, rfl⟩)
      · exact ⟨_, .noFields hpolicy, rfl⟩
      · obtain ⟨entries, rfl, hsound, hdescribes⟩ := Entry.listOfJson_eq_ok.mp hread
        obtain ⟨message, hitem⟩ := (Entry.refused_iff hdescribes).mp hrefused
        rw [List.length_map]
        exact ⟨_, .entry hsound hitem, rfl⟩
    · rintro ⟨report, h, rfl⟩
      cases h with
      | notFields hjson => exact absurd rfl (hjson items)
      | noFields hpolicy => exact .inl ⟨rfl, _, ⟨hpolicy, rfl⟩, rfl⟩
      | @entry entries item rest _ _ hsound hitem =>
        obtain ⟨fields, hread, hdescribes⟩ := Entry.exists_listOfJson hsound
        refine .inr ⟨by simp, _, item, rest, rfl, fields, _, hread,
          (Entry.refused_iff hdescribes).mpr ⟨_, hitem⟩, ?_⟩
        rw [List.length_map]
  | _ =>
    constructor
    · intro h
      cases h
      exact ⟨_, .notFields (by simp), rfl⟩
    · rintro ⟨_, h, rfl⟩
      cases h
      rfl

theorem Provider.ofJson_eq_error {name : String} : ofJson policy name json = .error problem ↔
    ∃ report, FirstDefect policy name json report ∧
      problem = .defective report.place report.defect := by
  cases json with
  | object categories =>
    simp only [ofJson, Except.do_eq_error, Except.mapM_eq_error, Category.exists_ofJson,
      Category.ofJson_eq_error, reduceCtorEq, and_false, exists_false, or_false]
    constructor
    · rintro ⟨before, ⟨category, json⟩, after, rfl, hbefore, report, hcategory, rfl⟩
      exact ⟨report, .category hbefore hcategory, rfl⟩
    · rintro ⟨report, h, rfl⟩
      cases h with
      | notCategories hjson => exact absurd rfl (hjson categories)
      | category hbefore hcategory => exact ⟨_, _, _, rfl, hbefore, report, hcategory, rfl⟩
  | _ =>
    constructor
    · intro h
      cases h
      exact ⟨_, .notCategories (by simp), rfl⟩
    · rintro ⟨_, h, rfl⟩
      cases h
      rfl

theorem ofJson_eq_error : ofJson policy json = .error problem ↔
    ∃ report, FirstDefect policy json report ∧
      problem = .defective report.place report.defect := by
  cases json with
  | object providers =>
    have hread (member : String × Json) :
        (∃ entry, ∃ provider, Provider.ofJson policy member.1 member.2 = .ok provider ∧
          Except.ok (ε := Problem) (member.1, provider) = .ok entry) ↔
        Provider.Legible policy member.2 := by
      rw [exists_comm]
      simp [Provider.exists_ofJson]
    simp only [ofJson, Except.do_eq_error, Except.do_eq_ok, Except.mapM_eq_error, hread,
      Provider.ofJson_eq_error, reduceCtorEq, and_false, exists_false, or_false]
    constructor
    · rintro ⟨before, ⟨name, json⟩, after, rfl, hbefore, report, hprovider, rfl⟩
      exact ⟨report, .provider hbefore hprovider, rfl⟩
    · rintro ⟨report, h, rfl⟩
      cases h with
      | notProviders hjson => exact absurd rfl (hjson providers)
      | provider hbefore hprovider => exact ⟨_, _, _, rfl, hbefore, report, hprovider, rfl⟩
  | _ =>
    constructor
    · intro h
      cases h
      exact ⟨_, .notProviders (by simp), rfl⟩
    · rintro ⟨_, h, rfl⟩
      cases h
      rfl

/-- What is reported for a document is its first defect: one that the node at the reported place
has, where the providers before it, the categories before it in its provider and the entries before
it in its category are all fit to be read, each on its own. The texts of the report name the node
and what is wrong with it. -/
theorem first_defect_reported (policy : Policy) (json : Json) :
    (∀ problem, ofJson policy json = .error problem ↔ ∃ report, FirstDefect policy json report ∧
      problem = .defective report.place report.defect) ∧
    ∀ report, FirstDefect policy json report →
      report.place.text = report.path ∧ report.defect.text = report.message ∧
      (Problem.defective report.place report.defect).text =
        "invalid schema at " ++ report.path ++ ": " ++ report.message := by
  refine ⟨fun problem => ofJson_eq_error, fun report h => ?_⟩
  obtain ⟨hpath, hmessage⟩ := h.text_eq
  rw [← hpath, ← hmessage]
  exact ⟨rfl, rfl, rfl⟩

end IdentityForms.Schema
