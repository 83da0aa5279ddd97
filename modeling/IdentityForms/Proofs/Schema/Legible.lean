import IdentityForms.Proofs.Entries
import IdentityForms.Proofs.Json.Value
import IdentityForms.Proofs.Schema.Reading

/-! Which documents a schema can be read from, and what each of their nodes says of it. The policy
enters only where an order or an entry may be missing. -/
namespace IdentityForms

/-- Whether a number gives a field its order: it is an integer of 64 bits, and smaller than
`9 * 10 ^ 15` if it is held as a double. -/
def Json.Number.Orders (number : Json.Number) (order : Int64) : Prop :=
  number.value = order.toInt ∧ ∀ x, number = .binary x → order.toInt.natAbs < 9 * 10 ^ 15

theorem Json.Number.order?_eq_some {number : Json.Number} {order : Int64} :
    number.order? = some order ↔ number.Orders order := by
  have hmin : Int64.minValue.toInt = -2 ^ 63 := by decide
  have hmax : Int64.maxValue.toInt = 2 ^ 63 - 1 := by decide
  have hbounds := And.intro order.le_toInt order.toInt_lt
  cases number with
  | integer n =>
    simp only [order?, Orders, value, reduceCtorEq, false_implies, implies_true, and_true,
      Int.cast_inj, hmin, hmax, Option.ite_none_right_eq_some, Option.some.injEq]
    constructor
    · rintro ⟨hrange, rfl⟩
      exact (Int64.toInt_ofInt_of_le hrange.1 (by omega)).symm
    · rintro rfl
      exact ⟨by omega, order.ofInt_toInt⟩
  | binary x =>
    simp only [order?, Orders, value, Option.bind_eq_some_iff, Binary64.toInt?_eq_some,
      Option.ite_none_right_eq_some, Option.some.injEq, Json.Number.binary.injEq, forall_eq',
      Nat.pow_eq]
    constructor
    · rintro ⟨n, hvalue, hsmall, rfl⟩
      rw [Int64.toInt_ofInt_of_le (by omega) (by omega)]
      exact ⟨hvalue, hsmall⟩
    · rintro ⟨hvalue, hsmall⟩
      exact ⟨order.toInt, hvalue, hsmall, order.ofInt_toInt⟩

namespace Schema

/-- The members of an object that describes a field. -/
abbrev Entry := List (String × Json)

namespace Entry

/-- Whether a label is given, and nothing but what may be said of a field under its names. -/
structure Legible (entry : Entry) : Prop where
  label : ∃ label, entry.lookup "label" = some (.string label)
  required : ∀ json, entry.lookup "required" = some json → json = .null ∨
    ∃ required, json = .bool required
  validation : ∀ json, entry.lookup "validation" = some json → json = .null ∨
    ∃ validation, json = .string validation

def Orders (entry : Entry) (order : Int64) : Prop :=
  ∃ number, entry.lookup "order" = some (.number number) ∧ number.Orders order

structure Describes (entry : Entry) (field : Field) : Prop where
  label : entry.lookup "label" = some (.string field.label)
  order : ∀ order, field.order = some order ↔ entry.Orders order
  required : field.required = true ↔ entry.lookup "required" = some (.bool true)
  validation : ∀ validation, field.validation = some validation ↔
    entry.lookup "validation" = some (.string validation)

def names : List String := ["label", "order", "required", "validation"]

/-- Whether entries differ in nothing but the order of their members, which have distinct names,
and in members that say nothing of a field. -/
structure Alike (left right : Entry) : Prop where
  distinct : (left.map Prod.fst).Nodup
  perm : (left.filter (·.1 ∈ names)).Perm (right.filter (·.1 ∈ names))

variable {entry left right : Entry} {policy : Policy} {field : Field} {order : Int64}

theorem orderOf_eq_some : Field.orderOf entry = some order ↔ entry.Orders order := by
  unfold Field.orderOf Orders
  simp only [← Json.Number.order?_eq_some]
  split
  · next number hlookup => simp [hlookup]
  · next hlookup =>
    refine iff_of_false (by simp) fun ⟨number, hnumber, _⟩ => hlookup number hnumber

theorem labelOf_eq_ok {label : String} :
    Field.labelOf entry = .ok label ↔ entry.lookup "label" = some (.string label) := by
  unfold Field.labelOf
  generalize entry.lookup "label" = found
  rcases found with _ | json
  · simp
  · cases json <;> simp

theorem requiredOf_eq_ok {required : Bool} : Field.requiredOf entry = .ok required ↔
    (∀ json, entry.lookup "required" = some json → json = .null ∨ ∃ value, json = .bool value) ∧
      (required = true ↔ entry.lookup "required" = some (.bool true)) := by
  unfold Field.requiredOf
  generalize entry.lookup "required" = found
  rcases found with _ | json
  · cases required <;> simp
  · cases json <;> cases required <;> simp

theorem validationOf_eq_ok {validation : Option String} :
    Field.validationOf entry = .ok validation ↔
    (∀ json, entry.lookup "validation" = some json → json = .null ∨ ∃ value, json = .string value) ∧
      ∀ value, validation = some value ↔ entry.lookup "validation" = some (.string value) := by
  unfold Field.validationOf
  generalize entry.lookup "validation" = found
  rcases found with _ | json
  · cases validation <;> simp
  · cases json <;> cases validation <;> simp [eq_comm]

theorem Legible.exists_describes (h : entry.Legible) : ∃ field, entry.Describes field := by
  obtain ⟨label, hlabel⟩ := h.label
  have hrequired : ∃ required : Bool,
      required = true ↔ entry.lookup "required" = some (.bool true) := by
    by_cases htrue : entry.lookup "required" = some (.bool true)
    · exact ⟨true, by simp [htrue]⟩
    · exact ⟨false, by simp [htrue]⟩
  have hvalidation : ∃ validation : Option String, ∀ value,
      validation = some value ↔ entry.lookup "validation" = some (.string value) := by
    by_cases htext : ∃ value, entry.lookup "validation" = some (.string value)
    · obtain ⟨value, hvalue⟩ := htext
      exact ⟨some value, by simp [hvalue]⟩
    · exact ⟨none, by simpa using htext⟩
  obtain ⟨required, hrequired⟩ := hrequired
  obtain ⟨validation, hvalidation⟩ := hvalidation
  exact ⟨⟨label, Field.orderOf entry, required, validation⟩, hlabel, fun _ => orderOf_eq_some,
    hrequired, hvalidation⟩

/-- What only the strict policy asks of an entry. -/
def Meets (entry : Entry) (policy : Policy) : Prop :=
  policy = .strict → ∃ order, entry.Orders order

theorem meets_iff : entry.Meets policy ↔ (Field.orderOf entry = none → policy = .lenient) := by
  unfold Meets
  simp only [← orderOf_eq_some, ← Option.ne_none_iff_exists', ne_eq]
  cases policy <;> simp

theorem ofJson_eq_ok : Field.ofJson policy (.object entry) = .ok field ↔
    entry.Legible ∧ entry.Meets policy ∧ entry.Describes field := by
  simp only [Field.ofJson_eq_ok, Json.object.injEq, exists_eq_left', labelOf_eq_ok,
    requiredOf_eq_ok, validationOf_eq_ok, ← meets_iff]
  constructor
  · rintro ⟨hlabel, horder, hmeets, ⟨hboolean, hrequired⟩, htext, hvalidation⟩
    refine ⟨⟨⟨_, hlabel⟩, hboolean, htext⟩, hmeets, hlabel, fun order => ?_, hrequired, hvalidation⟩
    rw [← horder]
    exact orderOf_eq_some
  · rintro ⟨hlegible, hmeets, hdescribes⟩
    refine ⟨hdescribes.label, ?_, hmeets, ⟨hlegible.required, hdescribes.required⟩,
      hlegible.validation, hdescribes.validation⟩
    apply Option.ext
    intro order
    rw [orderOf_eq_some, hdescribes.order]

end Entry

/-- Whether a category is an array of legible entries with different labels. -/
def Category.Legible (policy : Policy) (json : Json) : Prop :=
  ∃ entries : List Entry, json = .array (entries.map .object) ∧
    (∀ entry ∈ entries, entry.Legible) ∧ (entries.map (·.lookup "label")).Nodup ∧
      (policy = .strict → entries ≠ [] ∧ ∀ entry ∈ entries, ∃ order, entry.Orders order)

def Category.Describes (json : Json) (category : Category) : Prop :=
  ∃ entries : List Entry, json = .array (entries.map .object) ∧
    List.Forall₂ Entry.Describes entries category.fields

def Provider.Describes (json : Json) (provider : Provider) : Prop :=
  ∃ members, json = .object members ∧ List.Forall₂ (fun member category =>
    category.name = member.1 ∧ Category.Describes member.2 category) members provider.categories

def Provider.Legible (policy : Policy) (json : Json) : Prop :=
  ∃ categories, json = .object categories ∧
    ∀ category ∈ categories, Category.Legible policy category.2

/-- Whether a document is an object of objects of legible categories. -/
def Legible (policy : Policy) (json : Json) : Prop :=
  ∃ providers, json = .object providers ∧
    ∀ provider ∈ providers, Provider.Legible policy provider.2

/-- Whether a document and a schema have the same nodes, each in the same place. -/
def Describes (json : Json) (schema : Schema) : Prop :=
  ∃ members, json = .object members ∧ List.Forall₂ (fun member entry =>
    entry.1 = member.1 ∧ Provider.Describes member.2 entry.2) members schema.providers

variable {policy : Policy} {json : Json}

theorem Field.ofJson_eq_ok_object {field : Field} : ofJson policy json = .ok field ↔
    ∃ entry, json = .object entry ∧ ofJson policy (.object entry) = .ok field := by
  constructor
  · intro h
    obtain ⟨entry, rfl, -⟩ := ofJson_eq_ok.mp h
    exact ⟨entry, rfl, h⟩
  · rintro ⟨entry, rfl, h⟩
    exact h

theorem Field.forall₂_ofJson {items : List Json} {fields : List Field} :
    List.Forall₂ (fun item field => ofJson policy item = .ok field) items fields ↔
      ∃ entries : List Entry, items = entries.map .object ∧
        List.Forall₂ (fun entry field => ofJson policy (.object entry) = .ok field) entries
          fields := by
  constructor
  · intro h
    induction h with
    | nil => exact ⟨[], rfl, .nil⟩
    | cons hfield _ ih =>
      obtain ⟨entry, rfl, hfield⟩ := ofJson_eq_ok_object.mp hfield
      obtain ⟨entries, rfl, hentries⟩ := ih
      exact ⟨entry :: entries, rfl, .cons hfield hentries⟩
  · rintro ⟨entries, rfl, h⟩
    exact List.forall₂_map_left_iff.mpr h

theorem Entry.map_lookup_label {entries : List Entry} {fields : List Field}
    (h : List.Forall₂ Entry.Describes entries fields) :
    entries.map (·.lookup "label") = fields.map fun field => some (.string field.label) := by
  induction h with
  | nil => rfl
  | cons hfield _ ih => rw [List.map_cons, List.map_cons, hfield.label, ih]

theorem Entry.nodup_labels {entries : List Entry} {fields : List Field}
    (h : List.Forall₂ Entry.Describes entries fields) :
    (entries.map (·.lookup "label")).Nodup ↔ (fields.map (·.label)).Nodup := by
  have hlabels : (fields.map fun field => some (Json.string field.label)) =
      (fields.map (·.label)).map (some ∘ Json.string) := by simp
  rw [map_lookup_label h, hlabels, List.nodup_map_iff]
  intro left right heq
  exact Json.string.inj (Option.some.inj heq)

theorem Entry.forall₂_ofJson {entries : List Entry} {fields : List Field} :
    List.Forall₂ (fun entry field => Field.ofJson policy (.object entry) = .ok field) entries
        fields ↔
      (∀ entry ∈ entries, entry.Legible) ∧ (∀ entry ∈ entries, entry.Meets policy) ∧
        List.Forall₂ Entry.Describes entries fields := by
  simp only [ofJson_eq_ok, List.forall₂_and_left]

theorem Category.ofJson_iff {owner name : String} {category : Category} :
    ofJson policy owner name json = .ok category ↔
      Legible policy json ∧ category.name = name ∧ Describes json category := by
  simp only [ofJson_eq_ok, Field.forall₂_ofJson, Entry.forall₂_ofJson]
  constructor
  · rintro ⟨_, rfl, hinsist, hname, ⟨entries, rfl, hlegible, hmeets, hdescribes⟩, hnodup⟩
    refine ⟨⟨entries, rfl, hlegible, (Entry.nodup_labels hdescribes).mpr hnodup, ?_⟩, hname,
      entries, rfl, hdescribes⟩
    rintro rfl
    exact ⟨fun hempty => by simp [hempty] at hinsist, fun entry hentry => hmeets entry hentry rfl⟩
  · rintro ⟨⟨entries, rfl, hlegible, hnodup, hstrict⟩, hname, _, heq, hdescribes⟩
    have hentries := List.map_injective_iff.mpr (fun _ _ => Json.object.inj) (Json.array.inj heq)
    subst hentries
    refine ⟨_, rfl, ?_, hname, ⟨entries, rfl, hlegible, fun entry hentry hpolicy =>
      (hstrict hpolicy).2 entry hentry, hdescribes⟩, (Entry.nodup_labels hdescribes).mp hnodup⟩
    intro hempty
    cases policy with
    | lenient => rfl
    | strict => exact absurd (List.map_eq_nil_iff.mp hempty) (hstrict rfl).1

theorem Provider.ofJson_iff {name : String} {provider : Provider} :
    ofJson policy name json = .ok provider ↔ Legible policy json ∧ Describes json provider := by
  simp only [ofJson_eq_ok, Category.ofJson_iff, List.forall₂_and_left]
  constructor
  · rintro ⟨members, rfl, hlegible, hdescribes⟩
    exact ⟨⟨members, rfl, hlegible⟩, members, rfl, hdescribes⟩
  · rintro ⟨⟨members, rfl, hlegible⟩, _, heq, hdescribes⟩
    cases heq
    exact ⟨members, rfl, hlegible, hdescribes⟩

/-- A schema is read from the documents that are legible and describe it. -/
theorem ofJson_iff {schema : Schema} : ofJson policy json = .ok schema ↔
    Legible policy json ∧ Describes json schema := by
  have hentry (member : String × Json) (entry : String × Provider) :
      (entry.1 = member.1 ∧ Provider.ofJson policy member.1 member.2 = .ok entry.2) ↔
        Provider.Legible policy member.2 ∧
          entry.1 = member.1 ∧ Provider.Describes member.2 entry.2 := by
    rw [Provider.ofJson_iff, and_left_comm]
  simp only [ofJson_eq_ok, hentry, List.forall₂_and_left]
  constructor
  · rintro ⟨members, rfl, hlegible, hdescribes⟩
    exact ⟨⟨members, rfl, hlegible⟩, members, rfl, hdescribes⟩
  · rintro ⟨⟨members, rfl, hlegible⟩, _, heq, hdescribes⟩
    cases heq
    exact ⟨members, rfl, hlegible, hdescribes⟩

theorem Category.Legible.exists_describes (h : Legible policy json) (name : String) :
    ∃ category : Category, category.name = name ∧ Describes json category := by
  obtain ⟨entries, rfl, hlegible, -⟩ := h
  obtain ⟨fields, hfields⟩ :=
    Except.exists_forall₂.mpr fun entry hentry => (hlegible entry hentry).exists_describes
  exact ⟨⟨name, fields⟩, rfl, entries, rfl, hfields⟩

theorem Provider.Legible.exists_describes (h : Legible policy json) :
    ∃ provider, Describes json provider := by
  obtain ⟨members, rfl, hlegible⟩ := h
  obtain ⟨categories, hcategories⟩ := Except.exists_forall₂.mpr fun member hmember =>
    (hlegible member hmember).exists_describes member.1
  exact ⟨⟨categories⟩, members, rfl, hcategories⟩

theorem Legible.exists_describes (h : Legible policy json) : ∃ schema, Describes json schema := by
  obtain ⟨members, rfl, hlegible⟩ := h
  have hentry (member : String × Json) (hmember : member ∈ members) :
      ∃ entry : String × Provider, entry.1 = member.1 ∧ Provider.Describes member.2 entry.2 := by
    obtain ⟨provider, hprovider⟩ := (hlegible member hmember).exists_describes
    exact ⟨(member.1, provider), rfl, hprovider⟩
  obtain ⟨providers, hproviders⟩ := Except.exists_forall₂.mpr hentry
  exact ⟨⟨providers⟩, members, rfl, hproviders⟩

theorem Category.exists_ofJson {owner name : String} :
    (∃ category, ofJson policy owner name json = .ok category) ↔ Legible policy json := by
  simp only [ofJson_iff]
  constructor
  · rintro ⟨category, hlegible, -⟩
    exact hlegible
  · intro hlegible
    obtain ⟨category, hname, hdescribes⟩ := hlegible.exists_describes name
    exact ⟨category, hlegible, hname, hdescribes⟩

theorem Provider.exists_ofJson {name : String} :
    (∃ provider, ofJson policy name json = .ok provider) ↔ Legible policy json := by
  simp only [ofJson_iff]
  constructor
  · rintro ⟨provider, hlegible, -⟩
    exact hlegible
  · intro hlegible
    obtain ⟨provider, hdescribes⟩ := hlegible.exists_describes
    exact ⟨provider, hlegible, hdescribes⟩

theorem exists_ofJson : (∃ schema, ofJson policy json = .ok schema) ↔ Legible policy json := by
  simp only [ofJson_iff]
  constructor
  · rintro ⟨schema, hlegible, -⟩
    exact hlegible
  · intro hlegible
    obtain ⟨schema, hdescribes⟩ := hlegible.exists_describes
    exact ⟨schema, hlegible, hdescribes⟩

end Schema

end IdentityForms
