import IdentityForms.Proofs.Schema.Legible

/-! What a schema document may hold beyond the schema. Entries are looked into by four names, so
neither further members nor the order of members make a difference to what is read or reported. -/
namespace IdentityForms

/-- The same value, or brackets of which the parts are related one by one, under the same keys. -/
inductive Json.Partwise (R : Json → Json → Prop) : Json → Json → Prop where
  | same (json : Json) : Partwise R json json
  | array {left right : List Json} (h : List.Forall₂ R left right) :
      Partwise R (.array left) (.array right)
  | object {left right : List (String × Json)}
      (h : List.Forall₂ (fun member other => member.1 = other.1 ∧ R member.2 other.2) left right) :
      Partwise R (.object left) (.object right)

namespace Schema

inductive AlikeEntries : Json → Json → Prop where
  | same (json : Json) : AlikeEntries json json
  | object {left right : Entry} (h : left.Alike right) : AlikeEntries (.object left) (.object right)

/-- Whether documents are the same up to entries that are alike. -/
def AlikeDocuments : Json → Json → Prop :=
  Json.Partwise (Json.Partwise (Json.Partwise AlikeEntries))

variable {policy : Policy} {json left right : Json}

theorem Entry.Alike.lookup_eq {left right : Entry} (h : left.Alike right) {name : String}
    (hname : name ∈ names) : left.lookup name = right.lookup name := by
  have hkept : decide (name ∈ names) = true := decide_eq_true hname
  have hdistinct : ((left.filter (·.1 ∈ names)).map Prod.fst).Nodup :=
    h.distinct.sublist (List.filter_sublist.map Prod.fst)
  calc left.lookup name = (left.filter (·.1 ∈ names)).lookup name :=
        (Entries.lookup_filter (p := (· ∈ names)) hkept left).symm
    _ = (right.filter (·.1 ∈ names)).lookup name := Entries.lookup_of_perm hdistinct h.perm name
    _ = right.lookup name := Entries.lookup_filter (p := (· ∈ names)) hkept right

theorem Field.ofJson_congr (h : AlikeEntries left right) :
    ofJson policy left = ofJson policy right := by
  cases h with
  | same => rfl
  | @object left right h =>
    have hlabel : labelOf left = labelOf right := by
      unfold labelOf
      rw [h.lookup_eq (by decide)]
    have horder : orderOf left = orderOf right := by
      unfold orderOf
      rw [h.lookup_eq (by decide)]
    have hrequired : requiredOf left = requiredOf right := by
      unfold requiredOf
      rw [h.lookup_eq (by decide)]
    have hvalidation : validationOf left = validationOf right := by
      unfold validationOf
      rw [h.lookup_eq (by decide)]
    simp only [ofJson, hlabel, horder, hrequired, hvalidation]

theorem Field.listOfJson_congr {left right : List Json} (h : List.Forall₂ AlikeEntries left right)
    (place : Nat → Place) (taken : List String) (index : Nat) :
    listOfJson policy place taken index left = listOfJson policy place taken index right := by
  induction h generalizing taken index with
  | nil => rfl
  | cons hentry _ ih => simp only [listOfJson, ofJson_congr hentry, ih]

theorem Category.ofJson_congr (h : Json.Partwise AlikeEntries left right) (owner name : String) :
    ofJson policy owner name left = ofJson policy owner name right := by
  cases h with
  | same => rfl
  | object => rfl
  | array h =>
    have hempty : ∀ {left right : List Json}, List.Forall₂ AlikeEntries left right →
        (left = [] ↔ right = []) := by
      intro left right h
      cases h <;> simp
    simp only [ofJson, Field.listOfJson_congr h, hempty h]

theorem Provider.ofJson_congr (h : Json.Partwise (Json.Partwise AlikeEntries) left right)
    (name : String) : ofJson policy name left = ofJson policy name right := by
  cases h with
  | same => rfl
  | array => rfl
  | object h =>
    unfold ofJson
    dsimp only
    rw [Except.mapM_congr (h.imp ?_)]
    rintro ⟨name, _⟩ ⟨_, _⟩ ⟨rfl, hcategory⟩
    exact Category.ofJson_congr hcategory _ name

theorem ofJson_congr (h : AlikeDocuments left right) :
    ofJson policy left = ofJson policy right := by
  cases h with
  | same => rfl
  | array => rfl
  | object h =>
    unfold ofJson
    dsimp only
    rw [Except.mapM_congr (h.imp ?_)]
    rintro ⟨name, _⟩ ⟨_, _⟩ ⟨rfl, hprovider⟩
    rw [Provider.ofJson_congr hprovider]

/-- A schema is read from the legible documents and from no others. It is the one that the document
describes, whatever else its entries hold and in whatever order. -/
theorem document_read_iff_legible (policy : Policy) (json : Json) :
    ((∃ schema, ofJson policy json = .ok schema) ↔ Legible policy json) ∧
    (∀ schema, ofJson policy json = .ok schema → Describes json schema) ∧
    (∀ other, AlikeDocuments json other → ofJson policy other = ofJson policy json) := by
  refine ⟨exists_ofJson, ?describes, ?alike⟩
  case describes =>
    intro schema hread
    exact (ofJson_iff.mp hread).2
  case alike =>
    intro other halike
    exact (ofJson_congr halike).symm

end Schema

end IdentityForms
