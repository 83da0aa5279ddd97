import IdentityForms.Proofs.Form.Addressing
import Mathlib.Data.List.Forall2

/-! How a layout arranges the fields of a category, and what it reports. If all of them have an
order they ascend by it, and those of one order stand as declared, which leaves a single way to
arrange them; one field without an order keeps the whole category as declared. -/
namespace IdentityForms

section

variable {α : Type} {key : α → Int64}

def byKey (key : α → Int64) (left right : α) : Bool := key left ≤ key right

theorem byKey_iff {left right : α} : byKey key left right ↔ key left ≤ key right :=
  decide_eq_true_iff

theorem byKey_trans (a b c : α) (hab : byKey key a b) (hbc : byKey key b c) : byKey key a c :=
  byKey_iff.mpr (Int64.le_trans (byKey_iff.mp hab) (byKey_iff.mp hbc))

theorem byKey_total (a b : α) : byKey key a b || byKey key b a := by
  rw [Bool.or_eq_true, byKey_iff, byKey_iff]
  exact Int64.le_total (key a) (key b)

theorem pairwise_mergeSort_byKey (as : List α) :
    (as.mergeSort (byKey key)).Pairwise fun a b => key a ≤ key b :=
  (List.pairwise_mergeSort byKey_trans byKey_total as).imp byKey_iff.mp

/-- Sorting by a key leaves the elements of one key in their order. -/
theorem filter_mergeSort_byKey (as : List α) (k : Int64) :
    (as.mergeSort (byKey key)).filter (key · = k) = as.filter (key · = k) := by
  have hequal : (as.filter (key · = k)).Pairwise fun a b => byKey key a b := by
    apply List.pairwise_of_forall_mem_list
    intro a ha b hb
    simp only [List.mem_filter, decide_eq_true_eq] at ha hb
    rw [byKey_iff, ha.2, hb.2]
    exact Int64.le_refl k
  have hsublist := (List.sublist_mergeSort byKey_trans byKey_total hequal
    List.filter_sublist).filter (key · = k)
  simp only [List.filter_filter, Bool.and_self] at hsublist
  have hperm := (List.mergeSort_perm as (byKey key)).filter (key · = k)
  exact (hsublist.eq_of_length hperm.length_eq.symm).symm

theorem mem_of_filter_eq {left right : List α}
    (h : ∀ k, left.filter (key · = k) = right.filter (key · = k)) {a : α} (ha : a ∈ left) :
    a ∈ right := by
  have hmem : a ∈ left.filter (key · = key a) := List.mem_filter.mpr ⟨ha, by simp⟩
  rw [h] at hmem
  exact List.mem_of_mem_filter hmem

/-- Two ascending lists are equal if they have the same elements of each key in the same order. -/
theorem eq_of_ascending {left right : List α} (hleft : left.Pairwise fun a b => key a ≤ key b)
    (hright : right.Pairwise fun a b => key a ≤ key b)
    (h : ∀ k, left.filter (key · = k) = right.filter (key · = k)) : left = right := by
  induction left generalizing right with
  | nil =>
    have hnone : ∀ b ∈ right, b ∉ right := fun b _ hb =>
      List.not_mem_nil (mem_of_filter_eq (fun k => (h k).symm) hb)
    exact (List.eq_nil_iff_forall_not_mem.mpr fun b hb => hnone b hb hb).symm
  | cons a left ih =>
    cases right with
    | nil => exact absurd (mem_of_filter_eq h List.mem_cons_self) List.not_mem_nil
    | cons b right =>
      rw [List.pairwise_cons] at hleft hright
      -- Each head is somewhere in the other list, so neither can have the greater key.
      have hab : key a ≤ key b := by
        rcases List.mem_cons.mp (mem_of_filter_eq (fun k => (h k).symm) List.mem_cons_self) with
          rfl | hb
        · exact Int64.le_refl _
        · exact hleft.1 b hb
      have hba : key b ≤ key a := by
        rcases List.mem_cons.mp (mem_of_filter_eq h List.mem_cons_self) with rfl | ha
        · exact Int64.le_refl _
        · exact hright.1 a ha
      have hkey : key a = key b := Int64.le_antisymm hab hba
      have hheads := h (key a)
      simp only [List.filter_cons, hkey, decide_true, if_true, List.cons.injEq] at hheads
      obtain ⟨rfl, -⟩ := hheads
      congr 1
      apply ih hleft.2 hright.2
      intro k
      have htails := h k
      by_cases hk : key a = k
      · simpa [List.filter_cons, hk] using htails
      · simpa [List.filter_cons, hk] using htails

end

theorem forall₂_filterMap {α β : Type} (f : α → Option β) (as : List α) :
    List.Forall₂ (fun a b => f a = some b) (as.filter fun a => (f a).isSome) (as.filterMap f) := by
  induction as with
  | nil => exact .nil
  | cons a as ih => cases h : f a <;> simp [h, ih]

namespace Schema

namespace Field

/-- The order of a field that has one. -/
def rank (spec : Field) : Int64 := spec.order.getD 0

def AllOrdered (specs : List Field) : Prop := ∀ spec ∈ specs, spec.order ≠ none

variable {specs : List Field}

theorem order_eq_some_iff {spec : Field} (h : spec.order ≠ none) {k : Int64} :
    spec.order = some k ↔ spec.rank = k := by
  obtain ⟨order, horder⟩ := Option.ne_none_iff_exists'.mp h
  rw [rank, horder, Option.getD_some, Option.some.injEq]

theorem AllOrdered.filter_some (h : AllOrdered specs) (k : Int64) :
    specs.filter (·.order = some k) = specs.filter (·.rank = k) := by
  apply List.filter_congr
  intro spec hspec
  rw [decide_eq_decide, order_eq_some_iff (h spec hspec)]

theorem AllOrdered.filter_none (h : AllOrdered specs) : specs.filter (·.order = none) = [] := by
  rw [List.filter_eq_nil_iff]
  intro spec hspec
  simpa using h spec hspec

theorem AllOrdered.ascending_iff (h : AllOrdered specs) :
    (specs.filterMap (·.order)).Pairwise (· ≤ ·) ↔ specs.Pairwise fun a b => a.rank ≤ b.rank := by
  rw [List.pairwise_filterMap]
  apply List.Pairwise.iff_of_mem
  intro a b ha hb
  constructor
  · intro hab
    exact hab _ ((order_eq_some_iff (h a ha)).mpr rfl) _ ((order_eq_some_iff (h b hb)).mpr rfl)
  · intro hab k hk l hl
    rwa [← (order_eq_some_iff (h a ha)).mp hk, ← (order_eq_some_iff (h b hb)).mp hl]

end Field

namespace Category

/-- Whether some fields are those of a category, ascending by their orders, and those of one order
as declared. -/
structure Arranges (category : Category) (specs : List Field) : Prop where
  perm : specs.Perm category.fields
  ascending : (specs.filterMap (·.order)).Pairwise (· ≤ ·)
  stable : ∀ order, specs.filter (·.order = order) = category.fields.filter (·.order = order)

/-- What a category lacks, and how this is said: it has no fields, or it has one, and this is the
first, without an order. -/
inductive Lacks (category : Category) : Defect → String → Prop where
  | fields (h : category.fields = []) : Lacks category .noFields "category has no fields"
  | order (front : List Field) (spec : Field) (back : List Field)
      (hfields : category.fields = front ++ spec :: back)
      (hfront : ∀ other ∈ front, other.order ≠ none) (h : spec.order = none) :
      Lacks category (.unordered spec.label) ("field '" ++ spec.label ++ "' has no numeric order")

variable {category : Category}

theorem arranged_of_unordered (h : ∃ spec ∈ category.fields, spec.order = none) :
    category.arranged = category.fields := by
  obtain ⟨spec, hspec, hnone⟩ := h
  unfold arranged
  rw [if_neg]
  intro hall
  have hsome := List.all_eq_true.mp hall spec hspec
  rw [hnone] at hsome
  cases hsome

theorem arranged_of_ordered (h : Field.AllOrdered category.fields) :
    category.arranged = category.fields.mergeSort (byKey Field.rank) := by
  have hall : category.fields.all (·.order.isSome) := by
    rw [List.all_eq_true]
    exact fun spec hspec => Option.isSome_iff_ne_none.mpr (h spec hspec)
  have hprecede : ∀ a ∈ category.fields, ∀ b ∈ category.fields,
      a.mayPrecede b = byKey Field.rank (id a) (id b) := by
    intro a ha b hb
    have horderA := (Field.order_eq_some_iff (h a ha)).mpr rfl
    have horderB := (Field.order_eq_some_iff (h b hb)).mpr rfl
    rw [Field.mayPrecede, horderA, horderB]
    rfl
  have hsorted := List.map_mergeSort hprecede
  rw [List.map_id, List.map_id] at hsorted
  rw [arranged, if_pos hall, hsorted]

theorem arranges_arranged (h : Field.AllOrdered category.fields) :
    category.Arranges category.arranged := by
  have hperm : category.arranged.Perm category.fields := category.arranged_perm
  have hordered : Field.AllOrdered category.arranged := fun spec hspec =>
    h spec (hperm.mem_iff.mp hspec)
  refine ⟨hperm, ?_, ?_⟩
  · rw [hordered.ascending_iff, arranged_of_ordered h]
    exact pairwise_mergeSort_byKey category.fields
  · intro order
    cases order with
    | none => rw [hordered.filter_none, h.filter_none]
    | some k =>
      rw [hordered.filter_some, h.filter_some, arranged_of_ordered h]
      exact filter_mergeSort_byKey category.fields k

/-- There is one way only to arrange fields that all have an order. -/
theorem Arranges.unique (h : Field.AllOrdered category.fields) {left right : List Field}
    (hleft : category.Arranges left) (hright : category.Arranges right) : left = right := by
  have hleftOrdered : Field.AllOrdered left := fun spec hspec =>
    h spec (hleft.perm.mem_iff.mp hspec)
  have hrightOrdered : Field.AllOrdered right := fun spec hspec =>
    h spec (hright.perm.mem_iff.mp hspec)
  apply eq_of_ascending (hleftOrdered.ascending_iff.mp hleft.ascending)
    (hrightOrdered.ascending_iff.mp hright.ascending)
  intro k
  rw [← hleftOrdered.filter_some, ← hrightOrdered.filter_some, hleft.stable, hright.stable]

theorem defect?_eq_some {defect : Defect} :
    category.defect? = some defect ↔ category.Lacks defect defect.text := by
  unfold defect?
  constructor
  · intro h
    split at h
    · next hfields =>
      cases h
      exact .fields hfields
    · obtain ⟨spec, hfound, rfl⟩ := Option.map_eq_some_iff.mp h
      obtain ⟨hnone, front, back, hfields, hfront⟩ := List.find?_eq_some_iff_append.mp hfound
      refine .order front spec back hfields ?_ (Option.isNone_iff_eq_none.mp hnone)
      intro other hother
      simpa [Option.isSome_iff_ne_none] using hfront other hother
  · intro h
    generalize defect.text = message at h
    cases h with
    | fields h => rw [if_pos h]
    | order front spec back hfields hfront h =>
      have hfound : category.fields.find? (·.order.isNone) = some spec := by
        rw [List.find?_eq_some_iff_append]
        refine ⟨Option.isNone_iff_eq_none.mpr h, front, back, hfields, ?_⟩
        intro other hother
        simpa [Option.isSome_iff_ne_none] using hfront other hother
      rw [if_neg (by simp [hfields]), hfound]
      rfl

theorem isSome_defect? (category : Category) : category.defect?.isSome =
    (category.fields.isEmpty || category.fields.any (·.order.isNone)) := by
  unfold defect?
  split
  · next h => simp [h]
  · next h =>
    rw [Option.isSome_map, Bool.eq_iff_iff, List.find?_isSome, List.isEmpty_eq_false_iff.mpr h,
      Bool.false_or, List.any_eq_true]

end Category

theorem text_defective_category (name category : String) (defect : Defect) :
    (Problem.defective (.category (if name = "" then none else some name) category) defect).text =
      "invalid schema at " ++ (if name = "" then category else name ++ "/" ++ category) ++ ": " ++
        defect.text := by
  by_cases h : name = ""
  · rw [if_pos h, if_pos h]
    rfl
  · rw [if_neg h, if_neg h]
    rfl

/-- A layout keeps the categories and the fields of a provider. Fields that all have an order are
arranged by it, in the only way there is; otherwise they stand as declared. What is reported is what
the categories lack, one problem for each that lacks something. -/
theorem Provider.layOut_arranged_and_reported (provider : Provider) (name : String) :
    let layout := provider.layOut name
    layout.form.provider? = (if name = "" then none else some name) ∧
    layout.form.selector.entry.value = name ∧
    List.Forall₂ (fun category group => group.name = category.name ∧
        ∃ specs : List Field, specs.Perm category.fields ∧
          (group.fields = specs.map fun spec =>
            ⟨spec.label, spec.order, Rule.ofField spec.required spec.validation, ⟨"", false, ∅⟩⟩) ∧
          ((∀ spec ∈ category.fields, spec.order ≠ none) →
            ∀ other, category.Arranges other ↔ other = specs) ∧
          ((∃ spec ∈ category.fields, spec.order = none) → specs = category.fields))
      provider.categories layout.form.groups ∧
    List.Forall₂ (fun category problem => ∃ defect message, category.Lacks defect message ∧
        problem = .defective (.category layout.form.provider? category.name) defect ∧
        problem.text = "invalid schema at " ++
          (if name = "" then category.name else name ++ "/" ++ category.name) ++ ": " ++ message)
      (provider.categories.filter fun category =>
        category.fields.isEmpty || category.fields.any (·.order.isNone)) layout.problems ∧
    (∀ form, layout.toExcept = .ok form ↔ layout.problems = [] ∧ form = layout.form) ∧
    (∀ problem, layout.toExcept = .error problem ↔ layout.problems.head? = some problem) := by
  intro layout
  have howner : layout.form.provider? = if name = "" then none else some name := rfl
  refine ⟨howner, rfl, ?groups, ?problems, ?ok, ?error⟩
  case groups =>
    change List.Forall₂ _ provider.categories (provider.categories.map (·.toForm))
    rw [List.forall₂_map_right_iff, List.forall₂_same]
    intro category _
    refine ⟨rfl, category.arranged, category.arranged_perm, rfl, ?_, Category.arranged_of_unordered⟩
    intro hordered other
    constructor
    · exact fun h => h.unique hordered (Category.arranges_arranged hordered)
    · rintro rfl
      exact Category.arranges_arranged hordered
  case problems =>
    have hproblems := forall₂_filterMap (fun category : Category => category.defect?.map
      (Problem.defective (.category layout.form.provider? category.name))) provider.categories
    simp only [Option.isSome_map, Category.isSome_defect?] at hproblems
    refine hproblems.imp ?_
    intro category problem hproblem
    obtain ⟨defect, hdefect, rfl⟩ := Option.map_eq_some_iff.mp hproblem
    refine ⟨defect, defect.text, Category.defect?_eq_some.mp hdefect, rfl, ?_⟩
    rw [howner]
    exact text_defective_category name category.name defect
  case ok =>
    intro form
    unfold Layout.toExcept
    cases layout.problems with
    | nil => simp [eq_comm]
    | cons problem problems => simp
  case error =>
    intro problem
    unfold Layout.toExcept
    cases layout.problems with
    | nil => simp
    | cons first problems => simp

end Schema

end IdentityForms
