/-! Paths of fields: a category, unless the field stands outside all of them, and a label. -/
namespace IdentityForms.Form

structure Path where
  category? : Option String
  label : String
  deriving DecidableEq

namespace Path

def text : Path → String
  | ⟨none, label⟩ => label
  | ⟨some category, label⟩ => category ++ "/" ++ label

instance : ToString Path := ⟨text⟩

/-- Paths outside every category come first; then the category decides, then the label. -/
instance : Ord Path where
  compare left right :=
    (compare left.category? right.category?).then (compare left.label right.label)

theorem eq_of_compare {left right : Path} (h : compare left right = .eq) : left = right := by
  obtain ⟨leftCategory, leftLabel⟩ := left
  obtain ⟨rightCategory, rightLabel⟩ := right
  have h : (compare leftCategory rightCategory).then (compare leftLabel rightLabel) = .eq := h
  rw [Ordering.then_eq_eq] at h
  rw [Std.LawfulEqOrd.eq_of_compare h.1, Std.LawfulEqOrd.eq_of_compare h.2]

/-- Puts a path into an ascending list, which holds no path twice. -/
def insert (path : Path) : List Path → List Path
  | [] => [path]
  | first :: paths =>
    match compare path first with
    | .lt => path :: first :: paths
    | .eq => first :: paths
    | .gt => first :: insert path paths

/-- The paths of a list, each once, in ascending order. -/
def ascending (paths : List Path) : List Path := paths.foldr insert []

theorem mem_insert {path other : Path} {paths : List Path} :
    other ∈ insert path paths ↔ other = path ∨ other ∈ paths := by
  induction paths with
  | nil => simp [insert]
  | cons first paths ih =>
    simp only [insert]
    split
    · simp
    · next h => simp [eq_of_compare h]
    · simp only [List.mem_cons, ih]
      exact or_left_comm

@[simp] theorem mem_ascending {path : Path} {paths : List Path} :
    path ∈ ascending paths ↔ path ∈ paths := by
  induction paths with
  | nil => simp [ascending]
  | cons first paths ih =>
    change path ∈ insert first (ascending paths) ↔ _
    rw [mem_insert, ih, List.mem_cons]

end Path

end IdentityForms.Form
