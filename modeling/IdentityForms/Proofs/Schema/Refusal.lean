import IdentityForms.Proofs.Schema.Legible

/-! The items of a category that are refused. Each is looked at on its own and then for its label,
which no item before it may have. The first that is refused ends the reading of the list. -/
namespace IdentityForms.Schema

/-- What is wrong with an item of a category on its own, and how this is said. Where several things
are, the one that comes first here is reported. -/
inductive Field.Defective (policy : Policy) : Json → Defect → String → Prop where
  | notField {json : Json} (hjson : ∀ entry, json ≠ .object entry) :
      Defective policy json .notField "expected a field object"
  | noLabel {entry : Entry} (hlabel : entry.lookup "label" = none) :
      Defective policy (.object entry) .noLabel "missing label"
  | labelNotText {entry : Entry} {json : Json} (hlabel : entry.lookup "label" = some json)
      (hjson : ∀ label, json ≠ .string label) :
      Defective policy (.object entry) .labelNotText "label must be a string"
  | noOrder {entry : Entry} {label : String} (hlabel : entry.lookup "label" = some (.string label))
      (hpolicy : policy = .strict) (horder : ∀ order, ¬ entry.Orders order) :
      Defective policy (.object entry) .noOrder "order is missing or not an integer"
  | requiredNotBoolean {entry : Entry} {label : String} {json : Json}
      (hlabel : entry.lookup "label" = some (.string label)) (hmeets : entry.Meets policy)
      (hrequired : entry.lookup "required" = some json)
      (hjson : json ≠ .null ∧ ∀ required, json ≠ .bool required) :
      Defective policy (.object entry) .requiredNotBoolean "required must be a boolean"
  | validationNotText {entry : Entry} {label : String} {json : Json}
      (hlabel : entry.lookup "label" = some (.string label)) (hmeets : entry.Meets policy)
      (hrequired : ∀ json, entry.lookup "required" = some json →
        json = .null ∨ ∃ required, json = .bool required)
      (hvalidation : entry.lookup "validation" = some json)
      (hjson : json ≠ .null ∧ ∀ validation, json ≠ .string validation) :
      Defective policy (.object entry) .validationNotText "validation must be a string"

/-- Whether entries are fit to be read, each on its own, and have different labels. -/
structure Entry.Sound (policy : Policy) (entries : List Entry) : Prop where
  legible : ∀ entry ∈ entries, entry.Legible
  meets : ∀ entry ∈ entries, entry.Meets policy
  labels : (entries.map (·.lookup "label")).Nodup

/-- What is wrong with an item that follows sound entries: its own defect, or if it has none a label
that one of them has. -/
inductive Entry.Unfit (policy : Policy) (entries : List Entry) : Json → Defect → String → Prop where
  | defective {item : Json} {defect : Defect} {message : String}
      (hitem : Field.Defective policy item defect message) :
      Unfit policy entries item defect message
  | repeatedLabel {entry : Entry} {label : String} (hlegible : entry.Legible)
      (hmeets : entry.Meets policy) (hlabel : entry.lookup "label" = some (.string label))
      (hrepeated : ∃ earlier ∈ entries, earlier.lookup "label" = some (.string label)) :
      Unfit policy entries (.object entry) (.repeatedLabel label)
        ("duplicate label '" ++ label ++ "'")

variable {policy : Policy} {json : Json} {defect : Defect} {message : String} {problem : Problem}

theorem Field.Defective.text_eq (h : Field.Defective policy json defect message) :
    defect.text = message := by
  cases h <;> rfl

theorem Entry.Unfit.text_eq {entries : List Entry} (h : Unfit policy entries json defect message) :
    defect.text = message := by
  cases h with
  | defective hitem => exact hitem.text_eq
  | repeatedLabel => rfl

theorem Policy.insist_eq_error {found : Defect} :
    policy.insist found = .error defect ↔ policy = .strict ∧ found = defect := by
  cases policy <;> simp [insist]

namespace Entry

variable {entry : Entry}

theorem labelOf_eq_error : Field.labelOf entry = .error defect ↔
    entry.lookup "label" = none ∧ defect = .noLabel ∨
      ∃ json, entry.lookup "label" = some json ∧ (∀ label, json ≠ .string label) ∧
        defect = .labelNotText := by
  unfold Field.labelOf
  generalize entry.lookup "label" = found
  rcases found with _ | json
  · simp [eq_comm]
  · cases json <;> simp [eq_comm]

theorem requiredOf_eq_error : Field.requiredOf entry = .error defect ↔
    ∃ json, entry.lookup "required" = some json ∧
      (json ≠ .null ∧ ∀ required, json ≠ .bool required) ∧ defect = .requiredNotBoolean := by
  unfold Field.requiredOf
  generalize entry.lookup "required" = found
  rcases found with _ | json
  · simp
  · cases json <;> simp [eq_comm]

theorem validationOf_eq_error : Field.validationOf entry = .error defect ↔
    ∃ json, entry.lookup "validation" = some json ∧
      (json ≠ .null ∧ ∀ validation, json ≠ .string validation) ∧ defect = .validationNotText := by
  unfold Field.validationOf
  generalize entry.lookup "validation" = found
  rcases found with _ | json
  · simp
  · cases json <;> simp [eq_comm]

theorem exists_requiredOf : (∃ required, Field.requiredOf entry = .ok required) ↔
    ∀ json, entry.lookup "required" = some json →
      json = .null ∨ ∃ required, json = .bool required := by
  unfold Field.requiredOf
  generalize entry.lookup "required" = found
  rcases found with _ | json
  · simp
  · cases json <;> simp

theorem orderOf_eq_none : Field.orderOf entry = none ↔ ∀ order, ¬ entry.Orders order := by
  simp only [← orderOf_eq_some, Option.eq_none_iff_forall_ne_some, ne_eq]

end Entry

theorem Field.ofJson_eq_error : ofJson policy json = .error defect ↔
    ∃ message, Defective policy json defect message := by
  cases json with
  | object entry =>
    simp only [ofJson, Except.do_eq_error, Except.ite_do_eq_error, Entry.labelOf_eq_error,
      Entry.labelOf_eq_ok, Policy.insist_eq_error, Policy.insist_eq_ok, ← Entry.meets_iff,
      Entry.requiredOf_eq_error, Entry.validationOf_eq_error, reduceCtorEq, and_false,
      exists_false, or_false]
    -- The cases are the checks in the order in which they are made.
    constructor
    · rintro ((⟨hlabel, rfl⟩ | ⟨json, hlabel, hjson, rfl⟩) | ⟨label, hlabel, h⟩)
      · exact ⟨_, .noLabel hlabel⟩
      · exact ⟨_, .labelNotText hlabel hjson⟩
      · rcases h with ⟨horder, hpolicy, rfl⟩ | ⟨hmeets, h⟩
        · exact ⟨_, .noOrder hlabel hpolicy (Entry.orderOf_eq_none.mp horder)⟩
        · rcases h with ⟨json, hrequired, hjson, rfl⟩ | ⟨required, hread, h⟩
          · exact ⟨_, .requiredNotBoolean hlabel hmeets hrequired hjson⟩
          · obtain ⟨json, hvalidation, hjson, rfl⟩ := h
            exact ⟨_, .validationNotText hlabel hmeets
              (Entry.exists_requiredOf.mp ⟨required, hread⟩) hvalidation hjson⟩
    · rintro ⟨_, h⟩
      cases h with
      | notField hjson => exact absurd rfl (hjson entry)
      | noLabel hlabel => exact .inl (.inl ⟨hlabel, rfl⟩)
      | labelNotText hlabel hjson => exact .inl (.inr ⟨_, hlabel, hjson, rfl⟩)
      | noOrder hlabel hpolicy horder =>
        exact .inr ⟨_, hlabel, .inl ⟨Entry.orderOf_eq_none.mpr horder, hpolicy, rfl⟩⟩
      | requiredNotBoolean hlabel hmeets hrequired hjson =>
        exact .inr ⟨_, hlabel, .inr ⟨hmeets, .inl ⟨_, hrequired, hjson, rfl⟩⟩⟩
      | validationNotText hlabel hmeets hrequired hvalidation hjson =>
        obtain ⟨required, hread⟩ := Entry.exists_requiredOf.mpr hrequired
        exact .inr ⟨_, hlabel, .inr ⟨hmeets, .inr ⟨required, hread, _, hvalidation, hjson, rfl⟩⟩⟩
  | _ =>
    constructor
    · intro h
      cases h
      exact ⟨_, .notField (by simp)⟩
    · rintro ⟨_, h⟩
      cases h
      rfl

namespace Field

/-- Whether an item is not taken after others that have taken the given labels, and why. -/
def Refused (policy : Policy) (taken : List String) (item : Json) (defect : Defect) : Prop :=
  ofJson policy item = .error defect ∨
    ∃ field, ofJson policy item = .ok field ∧ field.label ∈ taken ∧
      defect = .repeatedLabel field.label

variable {place : Nat → Place} {taken : List String} {index : Nat} {item : Json} {items : List Json}
  {field : Field}

theorem refused_or_fits (policy : Policy) (taken : List String) (item : Json) :
    (∃ defect, Refused policy taken item defect) ∨
      ∃ field, ofJson policy item = .ok field ∧ field.label ∉ taken := by
  cases hitem : ofJson policy item with
  | error defect => exact .inl ⟨defect, .inl hitem⟩
  | ok field =>
    by_cases hlabel : field.label ∈ taken
    · exact .inl ⟨_, .inr ⟨field, hitem, hlabel, rfl⟩⟩
    · exact .inr ⟨field, rfl, hlabel⟩

theorem listOfJson_of_refused (h : Refused policy taken item defect) :
    listOfJson policy place taken index (item :: items) =
      .error (.defective (place index) defect) := by
  rcases h with hitem | ⟨field, hitem, hlabel, rfl⟩
  · rw [listOfJson, hitem]
    rfl
  · rw [listOfJson, hitem]
    exact if_pos hlabel

theorem listOfJson_of_fits (hitem : ofJson policy item = .ok field) (hlabel : field.label ∉ taken) :
    listOfJson policy place taken index (item :: items) =
      (listOfJson policy place (field.label :: taken) (index + 1) items).map (field :: ·) := by
  rw [listOfJson, hitem]
  exact if_neg hlabel

/-- The labels that are taken after a field and others. -/
theorem reverse_labels_cons (field : Field) (fields : List Field) (taken : List String) :
    ((field :: fields).map (·.label)).reverse ++ taken =
      (fields.map (·.label)).reverse ++ field.label :: taken := by simp

theorem listOfJson_append {before : List Json} {fields : List Field}
    (hread : listOfJson policy place taken index before = .ok fields) (items : List Json) :
    listOfJson policy place taken index (before ++ items) =
      (listOfJson policy place ((fields.map (·.label)).reverse ++ taken) (index + before.length)
        items).map (fields ++ ·) := by
  induction before generalizing taken index fields with
  | nil =>
    cases hread
    rw [List.map_nil, List.reverse_nil, List.nil_append, List.nil_append, List.length_nil,
      Nat.add_zero]
    cases listOfJson policy place taken index items <;> rfl
  | cons item before ih =>
    rcases refused_or_fits policy taken item with ⟨defect, hrefused⟩ | ⟨field, hitem, hlabel⟩
    · rw [listOfJson_of_refused hrefused] at hread
      cases hread
    · rw [listOfJson_of_fits hitem hlabel, Except.map_eq_ok] at hread
      obtain ⟨rest, hread, rfl⟩ := hread
      rw [List.cons_append, listOfJson_of_fits hitem hlabel, ih hread, reverse_labels_cons,
        List.length_cons, Nat.add_comm before.length, ← Nat.add_assoc]
      cases listOfJson policy place _ _ items <;> rfl

/-- The items are read up to one that is refused with the labels that are taken by then. -/
theorem listOfJson_eq_error : listOfJson policy place taken index items = .error problem ↔
    ∃ before item after, items = before ++ item :: after ∧ ∃ fields defect,
      listOfJson policy place taken index before = .ok fields ∧
      Refused policy ((fields.map (·.label)).reverse ++ taken) item defect ∧
      problem = .defective (place (index + before.length)) defect := by
  constructor
  · intro h
    induction items generalizing taken index with
    | nil => cases h
    | cons item items ih =>
      rcases refused_or_fits policy taken item with ⟨defect, hrefused⟩ | ⟨field, hitem, hlabel⟩
      · rw [listOfJson_of_refused hrefused] at h
        cases h
        exact ⟨[], item, items, rfl, [], defect, rfl, hrefused, rfl⟩
      · rw [listOfJson_of_fits hitem hlabel, Except.map_eq_error] at h
        obtain ⟨before, next, after, rfl, fields, defect, hread, hrefused, rfl⟩ := ih h
        refine ⟨item :: before, next, after, rfl, field :: fields, defect, ?_, ?_, ?_⟩
        · rw [listOfJson_of_fits hitem hlabel, hread]
          rfl
        · rwa [reverse_labels_cons]
        · rw [List.length_cons, Nat.add_comm before.length, ← Nat.add_assoc]
  · rintro ⟨before, item, after, rfl, fields, defect, hread, hrefused, rfl⟩
    rw [listOfJson_append hread, listOfJson_of_refused hrefused]
    rfl

end Field

namespace Entry

variable {entries : List Entry} {fields : List Field}

theorem listOfJson_eq_ok {place : Nat → Place} {items : List Json} :
    Field.listOfJson policy place [] 0 items = .ok fields ↔
      ∃ entries : List Entry, items = entries.map .object ∧ Sound policy entries ∧
        List.Forall₂ Describes entries fields := by
  rw [Field.listOfJson_eq_ok, Field.forall₂_ofJson]
  simp only [forall₂_ofJson]
  constructor
  · rintro ⟨⟨entries, rfl, hlegible, hmeets, hdescribes⟩, hnodup, -⟩
    exact ⟨entries, rfl, ⟨hlegible, hmeets, (nodup_labels hdescribes).mpr hnodup⟩, hdescribes⟩
  · rintro ⟨entries, rfl, hsound, hdescribes⟩
    exact ⟨⟨entries, rfl, hsound.legible, hsound.meets, hdescribes⟩,
      (nodup_labels hdescribes).mp hsound.labels, by simp⟩

theorem exists_listOfJson {place : Nat → Place} (hsound : Sound policy entries) :
    ∃ fields, Field.listOfJson policy place [] 0 (entries.map .object) = .ok fields ∧
      List.Forall₂ Describes entries fields := by
  obtain ⟨fields, hdescribes⟩ :=
    Except.exists_forall₂.mpr fun entry hentry => (hsound.legible entry hentry).exists_describes
  exact ⟨fields, listOfJson_eq_ok.mpr ⟨entries, rfl, hsound, hdescribes⟩, hdescribes⟩

theorem mem_labels_iff (h : List.Forall₂ Describes entries fields) {label : String} :
    label ∈ fields.map (·.label) ↔
      ∃ entry ∈ entries, entry.lookup "label" = some (.string label) := by
  have hmem : (∃ entry ∈ entries, entry.lookup "label" = some (.string label)) ↔
      some (.string label) ∈ entries.map (·.lookup "label") := List.mem_map.symm
  rw [hmem, map_lookup_label h]
  simp

theorem refused_iff (hdescribes : List.Forall₂ Describes entries fields) {item : Json} :
    Field.Refused policy (fields.map (·.label)).reverse item defect ↔
      ∃ message, Unfit policy entries item defect message := by
  constructor
  · rintro (hitem | ⟨field, hitem, hlabel, rfl⟩)
    · obtain ⟨message, hdefective⟩ := Field.ofJson_eq_error.mp hitem
      exact ⟨message, .defective hdefective⟩
    · obtain ⟨entry, rfl, hitem⟩ := Field.ofJson_eq_ok_object.mp hitem
      obtain ⟨hlegible, hmeets, hfield⟩ := ofJson_eq_ok.mp hitem
      rw [List.mem_reverse, mem_labels_iff hdescribes] at hlabel
      exact ⟨_, .repeatedLabel hlegible hmeets hfield.label hlabel⟩
  · rintro ⟨_, h⟩
    cases h with
    | defective hitem => exact .inl (Field.ofJson_eq_error.mpr ⟨_, hitem⟩)
    | repeatedLabel hlegible hmeets hlabel hrepeated =>
      obtain ⟨field, hfield⟩ := hlegible.exists_describes
      have hsame := hfield.label.symm.trans hlabel
      cases hsame
      refine .inr ⟨field, ofJson_eq_ok.mpr ⟨hlegible, hmeets, hfield⟩, ?_, rfl⟩
      rwa [List.mem_reverse, mem_labels_iff hdescribes]

end Entry

end IdentityForms.Schema
