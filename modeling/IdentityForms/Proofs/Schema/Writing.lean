import IdentityForms.Proofs.Entries
import IdentityForms.Proofs.Json.Completeness
import IdentityForms.Proofs.Schema.Distinct
import IdentityForms.Proofs.Schema.Legible
import IdentityForms.Proofs.Schema.Strictness

/-! Schemas as documents. What is built by adding providers one after another is read from every
text in which they are written one after another, also if a provider comes more than once. -/
namespace IdentityForms.Schema

/-- The members of the object that a field is written as. What it does not have is left out. -/
def Field.members (field : Field) : List (String × Json) :=
  ("label", .string field.label) ::
    ((field.order.map fun order => ("order", .number (.integer order.toInt))).toList ++
      ("required", .bool field.required) ::
        (field.validation.map fun validation => ("validation", .string validation)).toList)

def Field.toJson (field : Field) : Json := .object field.members

def Category.toJson (category : Category) : Json := .array (category.fields.map (·.toJson))

def Provider.toJson (provider : Provider) : Json :=
  .object (provider.categories.map fun category => (category.name, category.toJson))

/-- The schema to which providers are added one after another. -/
def build (providers : List (String × Provider)) : Schema :=
  providers.foldl (fun schema entry => schema.put entry.1 entry.2) .empty

/-- Whether a text is an object of the providers, in the order in which they are given. -/
def ProvidersText (providers : List (String × Provider)) (text : String) : Prop :=
  Json.Padded (Json.ObjectText (Json.ValueText (Json.maxDepth - 1))
    (providers.map fun entry => (entry.1, entry.2.toJson))) text.toList

theorem Field.ofJson_toJson (field : Field) : ofJson .lenient field.toJson = .ok field := by
  obtain ⟨label, order, required, validation⟩ := field
  have hinteger (order : Int64) : (Json.Number.integer order.toInt).order? = some order :=
    Json.Number.order?_eq_some.mpr ⟨rfl, fun _ h => nomatch h⟩
  refine ofJson_eq_ok.mpr ⟨_, rfl, rfl, ?_, fun _ => rfl, ?_, ?_⟩
  · cases order with
    | none => cases validation <;> rfl
    | some order => exact hinteger order
  · cases order <;> rfl
  · cases order <;> cases validation <;> rfl

theorem Category.ofJson_toJson {category : Category}
    (h : (category.fields.map (·.label)).Nodup) (owner : String) :
    ofJson .lenient owner category.name category.toJson = .ok category := by
  refine ofJson_eq_ok.mpr ⟨_, rfl, fun _ => rfl, rfl, ?_, h⟩
  rw [List.forall₂_map_left_iff, List.forall₂_same]
  exact fun field _ => field.ofJson_toJson

theorem Provider.ofJson_toJson {provider : Provider} (h : provider.Distinct) (name : String) :
    ofJson .lenient name provider.toJson = .ok provider := by
  refine ofJson_eq_ok.mpr ⟨_, rfl, ?_⟩
  rw [List.forall₂_map_left_iff, List.forall₂_same]
  exact fun category hcategory => Category.ofJson_toJson (h.labels category hcategory) name

theorem build_eq (providers : List (String × Provider)) :
    build providers = ⟨Entries.ofList providers⟩ :=
  List.foldl_hom Schema.mk fun _ _ => rfl

theorem Field.exists_scalarText (field : Field) :
    ∀ member ∈ field.members, ∃ text, Json.ScalarText member.2 text := by
  obtain ⟨label, order, required, validation⟩ := field
  have hstring (value : String) : ∃ text, Json.ScalarText (.string value) text := by
    obtain ⟨text, htext⟩ := Json.exists_stringText value
    exact ⟨text, .string value text htext⟩
  have hbool : ∃ text, Json.ScalarText (.bool required) text := by
    cases required with
    | true => exact ⟨_, .true⟩
    | false => exact ⟨_, .false⟩
  have hinteger (order : Int64) : ∃ text, Json.ScalarText (.number (.integer order.toInt)) text :=
    ⟨_, .number _ _ (.integer _ order.le_toInt (by have := order.toInt_lt; omega))⟩
  cases order <;> cases validation <;> simp [members, hstring, hbool, hinteger]

theorem Field.exists_valueText (field : Field) (depth : Nat) :
    ∃ text, Json.ValueText (depth + 1) field.toJson text := by
  have hnodup : (field.members.map Prod.fst).Nodup := by
    obtain ⟨label, order, required, validation⟩ := field
    cases order <;> cases validation <;> simp [members]
  apply Json.exists_valueText_object hnodup
  intro member hmember
  obtain ⟨text, htext⟩ := field.exists_scalarText member hmember
  exact ⟨text, htext.value depth⟩

theorem Category.exists_valueText (category : Category) (depth : Nat) :
    ∃ text, Json.ValueText (depth + 2) category.toJson text := by
  apply Json.exists_valueText_array
  rw [List.forall_mem_map]
  exact fun field _ => field.exists_valueText depth

theorem Provider.exists_valueText {provider : Provider} (h : provider.Distinct) (depth : Nat) :
    ∃ text, Json.ValueText (depth + 3) provider.toJson text := by
  apply Json.exists_valueText_object
  · rw [List.map_map]
    exact h.names
  · rw [List.forall_mem_map]
    exact fun category _ => category.exists_valueText depth

theorem exists_providersText {providers : List (String × Provider)}
    (hdistinct : ∀ entry ∈ providers, entry.2.Distinct) :
    ∃ text, ProvidersText providers text := by
  have hmembers : ∀ member ∈ providers.map fun entry => (entry.1, entry.2.toJson),
      ∃ text, Json.ValueText (Json.maxDepth - 1) member.2 text := by
    rw [List.forall_mem_map]
    exact fun entry hentry => Provider.exists_valueText (hdistinct entry hentry) 123
  obtain ⟨text, htext⟩ := Json.exists_objectText hmembers
  refine ⟨String.ofList text, ?_⟩
  rw [ProvidersText, String.toList_ofList]
  exact Json.padded_self htext

theorem ofText_of_providersText {providers : List (String × Provider)} {policy : Policy}
    {text : String} (h : ProvidersText providers text) : ofText policy text =
      ofJson policy (.object ((Entries.ofList providers).map fun entry =>
        (entry.1, entry.2.toJson))) := by
  obtain ⟨before, inner, after, hbefore, hinner, hafter, htext⟩ := h
  have hread : Json.ofText text = .ok _ := Json.ofText_of_padded
    ⟨before, inner, after, hbefore, .object _ _ hinner, hafter, htext⟩
  rw [Entries.ofList_map] at hread
  rw [ofText, hread]
  rfl

theorem ofJson_build {providers : List (String × Provider)}
    (hdistinct : ∀ entry ∈ providers, entry.2.Distinct) :
    ofJson .lenient (.object ((Entries.ofList providers).map fun entry =>
      (entry.1, entry.2.toJson))) = .ok (build providers) := by
  rw [build_eq]
  refine ofJson_eq_ok.mpr ⟨_, rfl, ?_⟩
  rw [List.forall₂_map_left_iff, List.forall₂_same]
  intro entry hentry
  exact ⟨rfl, Provider.ofJson_toJson (hdistinct entry (Entries.mem_of_mem_ofList hentry)) entry.1⟩

/-- What is built from providers is read from every text of them, and by the strict policy if no
category is left empty and no field without an order. A name that comes more than once has its
first place and its last provider. -/
theorem built_is_read {providers : List (String × Provider)}
    (hdistinct : ∀ entry ∈ providers, entry.2.Distinct) :
    (∃ text, ProvidersText providers text) ∧
    (∀ text, ProvidersText providers text → ofText .lenient text = .ok (build providers) ∧
      (ofText .strict text = .ok (build providers) ↔ ∀ entry ∈ (build providers).providers,
        ∀ category ∈ entry.2.categories, category.fields ≠ [] ∧
          ∀ field ∈ category.fields, field.order ≠ none)) ∧
    (build providers).names = (providers.map Prod.fst).eraseDups ∧
    ∀ name, (build providers).provider? name = providers.reverse.lookup name := by
  refine ⟨exists_providersText hdistinct, ?read, ?names, ?provider⟩
  case read =>
    intro text htext
    have hlenient := ofJson_build hdistinct
    rw [ofText_of_providersText htext, ofText_of_providersText htext, ofJson_strict]
    simp only [Category.defect?_eq_none, hlenient, true_and]
  case names =>
    rw [build_eq]
    exact Entries.names_ofList providers
  case provider =>
    intro name
    rw [build_eq]
    exact Entries.lookup_ofList providers name

def renewed : List (String × Provider) :=
  [("A", ⟨[]⟩), ("B", ⟨[]⟩), ("A", ⟨[⟨"P", [⟨"N", some Int64.minValue, true, none⟩]⟩]⟩)]

/-- When the name `A` comes again, it is an escape by code with white space after it. -/
def renewedText : String :=
  "\x7b\"A\":\x7b\x7d,\"B\":\x7b\x7d,\"\\u0041\" :\x7b\"P\":[\x7b\"label\":\"N\"," ++
    "\"order\":-9223372036854775808,\"required\":true\x7d]\x7d\x7d"

theorem providersText_renewed : ProvidersText renewed renewedText := by
  have hlabel : Json.ScalarText (.string "N") _ :=
    .string "N" _ (Json.stringText_of_plain (by decide))
  have horder : Json.ScalarText (.number (.integer Int64.minValue.toInt)) _ :=
    .number _ _ (.integer _ (by decide) (by decide))
  have hfield : Json.ValueText 124 (Field.toJson ⟨"N", some Int64.minValue, true, none⟩) _ :=
    Json.ObjectText.value (by decide) ⟨_,
      .cons (Json.memberText_of_plain (by decide) (hlabel.value 123)) (.cons
        (Json.memberText_of_plain (by decide) (horder.value 123)) (.cons
          (Json.memberText_of_plain (by decide) (Json.ScalarText.true.value 123)) .nil)),
      .parts _ (by simp)⟩
  have hcategory : Json.ValueText 125 (Category.toJson
      ⟨"P", [⟨"N", some Int64.minValue, true, none⟩]⟩) _ :=
    .array _ _ ⟨_, .cons (Json.padded_self hfield) .nil, .parts _ (by simp)⟩
  have hprovider : Json.ValueText 126 (Provider.toJson
      ⟨[⟨"P", [⟨"N", some Int64.minValue, true, none⟩]⟩]⟩) _ :=
    Json.ObjectText.value (by decide)
      ⟨_, .cons (Json.memberText_of_plain (by decide) hcategory) .nil, .parts _ (by simp)⟩
  have hempty : Json.ValueText 126 (Provider.toJson ⟨[]⟩) _ :=
    Json.ObjectText.value (by decide) ⟨[], .nil, .empty [] (by simp [Json.Blank])⟩
  have hquad : Json.QuadText 'A'.toNat ['0', '0', '4', '1'] :=
    .cons (.inl (by decide)) (.cons (.inl (by decide)) (.cons (.inl (by decide))
      (.cons (.inl (by decide)) .nil)))
  have hescaped : Json.StringText "A" _ := ⟨_, .cons (.code _ (by decide) hquad) .nil, rfl⟩
  have hkey : Json.Padded (Json.StringText "A") _ :=
    ⟨[], _, [' '], by simp [Json.Blank], hescaped, by simp [Json.Blank], rfl⟩
  have hmembers : List.Forall₂ (Json.MemberText (Json.ValueText 126))
      (renewed.map fun entry => (entry.1, entry.2.toJson)) _ :=
    .cons (Json.memberText_of_plain (by decide) hempty) (.cons
      (Json.memberText_of_plain (by decide) hempty) (.cons
        ⟨_, _, hkey, Json.padded_self hprovider, rfl⟩ .nil))
  refine Json.padded_self ⟨_, hmembers, ?_⟩
  convert Json.Bracketed.parts _ (List.cons_ne_nil _ _) using 1
  decide +kernel

theorem built_is_read_renewed :
    (∀ entry ∈ renewed, entry.2.Distinct) ∧ ProvidersText renewed renewedText ∧
    ∀ policy, ofText policy renewedText =
      .ok ⟨[("A", ⟨[⟨"P", [⟨"N", some Int64.minValue, true, none⟩]⟩]⟩), ("B", ⟨[]⟩)]⟩ := by
  have hdistinct : ∀ entry ∈ renewed, entry.2.Distinct := by
    simp only [renewed, List.forall_mem_cons]
    exact ⟨⟨by decide, by decide⟩, ⟨by decide, by decide⟩, ⟨by decide, by decide⟩, by simp⟩
  have hbuilt : build renewed =
      ⟨[("A", ⟨[⟨"P", [⟨"N", some Int64.minValue, true, none⟩]⟩]⟩), ("B", ⟨[]⟩)]⟩ := by decide
  obtain ⟨-, hread, -⟩ := built_is_read hdistinct
  obtain ⟨hlenient, hstrict⟩ := hread renewedText providersText_renewed
  refine ⟨hdistinct, providersText_renewed, fun policy => ?_⟩
  rw [hbuilt] at hlenient hstrict
  cases policy with
  | lenient => exact hlenient
  | strict => exact hstrict.mpr (by decide)

end IdentityForms.Schema
