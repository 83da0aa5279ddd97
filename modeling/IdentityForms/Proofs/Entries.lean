import IdentityForms.Entries
import Mathlib.Data.List.Forall2
import Mathlib.Data.List.Induction

/-! Lists of named values as mappings. Of the values that a list gives one name the last counts, and
a list that gives no name twice is kept as it is. -/
namespace IdentityForms.Entries

variable {α : Type} {entries : List (String × α)} {name : String} {value : α}

theorem put_of_notMem (h : name ∉ entries.map Prod.fst) :
    put name value entries = entries ++ [(name, value)] := by
  induction entries with
  | nil => rfl
  | cons entry entries ih =>
    rw [List.map_cons, List.mem_cons, not_or] at h
    rw [put, if_neg (Ne.symm h.1), ih h.2, List.cons_append]

theorem lookup_put (other : String) : (put name value entries).lookup other =
    if other = name then some value else entries.lookup other := by
  by_cases hother : other = name
  · rw [if_pos hother, hother, lookup_put_self]
  · rw [if_neg hother]
    induction entries with
    | nil => simp [put, List.lookup_cons, beq_false_of_ne hother]
    | cons entry entries ih =>
      obtain ⟨key, held⟩ := entry
      unfold put
      split
      · next hkey =>
        have hne : (other == key) = false := beq_false_of_ne fun h => hother (h.trans hkey)
        simp [List.lookup_cons, hne, beq_false_of_ne hother]
      · simp only [List.lookup_cons, ih]

theorem lookup_of_mem (h : (entries.map Prod.fst).Nodup) (hmem : (name, value) ∈ entries) :
    entries.lookup name = some value := by
  induction entries with
  | nil => exact absurd hmem List.not_mem_nil
  | cons entry entries ih =>
    obtain ⟨key, held⟩ := entry
    obtain ⟨hfresh, h⟩ := List.nodup_cons.mp h
    rcases List.mem_cons.mp hmem with hmem | hmem
    · cases hmem
      exact List.lookup_cons_self
    · have hne : name ≠ key := fun heq =>
        hfresh (List.mem_map.mpr ⟨(name, value), hmem, heq⟩)
      rw [List.lookup_cons, beq_false_of_ne hne]
      exact ih h hmem

theorem lookup_eq_some_iff (h : (entries.map Prod.fst).Nodup) :
    entries.lookup name = some value ↔ (name, value) ∈ entries := by
  constructor
  · intro hlookup
    obtain ⟨front, back, rfl, -⟩ := List.lookup_eq_some_iff.mp hlookup
    exact List.mem_append_right front List.mem_cons_self
  · exact lookup_of_mem h

theorem lookup_of_perm {others : List (String × α)} (h : (entries.map Prod.fst).Nodup)
    (hperm : entries.Perm others) (name : String) : entries.lookup name = others.lookup name := by
  have hothers : (others.map Prod.fst).Nodup := (hperm.map Prod.fst).nodup_iff.mp h
  apply Option.ext
  intro value
  rw [lookup_eq_some_iff h, lookup_eq_some_iff hothers, hperm.mem_iff]

theorem lookup_filter {p : String → Bool} (h : p name) (entries : List (String × α)) :
    (entries.filter (p ·.1)).lookup name = entries.lookup name := by
  induction entries with
  | nil => rfl
  | cons entry entries ih =>
    obtain ⟨key, held⟩ := entry
    rw [List.filter_cons]
    by_cases hkey : name = key
    · subst hkey
      rw [if_pos h, List.lookup_cons_self, List.lookup_cons_self]
    · rw [List.lookup_cons, beq_false_of_ne hkey]
      split
      · rw [List.lookup_cons, beq_false_of_ne hkey]
        exact ih
      · exact ih

theorem ofList_append (entries : List (String × α)) (name : String) (value : α) :
    ofList (entries ++ [(name, value)]) = put name value (ofList entries) := by
  simp [ofList, List.foldl_append]

theorem lookup_ofList (entries : List (String × α)) (name : String) :
    (ofList entries).lookup name = entries.reverse.lookup name := by
  -- The value that is put last counts, so the list is taken from its end.
  induction entries using List.reverseRecOn with
  | nil => rfl
  | append_singleton entries entry ih =>
    obtain ⟨key, held⟩ := entry
    rw [ofList_append, lookup_put, ih, List.reverse_append, List.reverse_singleton,
      List.singleton_append, List.lookup_cons]
    by_cases h : name = key
    · simp [h]
    · simp [h, beq_false_of_ne h]

theorem nodup_names_ofList (entries : List (String × α)) :
    ((ofList entries).map Prod.fst).Nodup := by
  induction entries using List.reverseRecOn with
  | nil => exact List.nodup_nil
  | append_singleton entries entry ih =>
    rw [ofList_append]
    exact nodup_names_put ih

theorem ofList_eq_self_iff : ofList entries = entries ↔ (entries.map Prod.fst).Nodup := by
  constructor
  · intro h
    exact h ▸ nodup_names_ofList entries
  · intro h
    induction entries using List.reverseRecOn with
    | nil => rfl
    | append_singleton entries entry ih =>
      obtain ⟨key, held⟩ := entry
      rw [List.map_append, List.nodup_append] at h
      have hfresh : key ∉ entries.map Prod.fst := fun hmem =>
        h.2.2 key hmem key List.mem_cons_self rfl
      rw [ofList_append, ih h.1, put_of_notMem hfresh]

theorem mem_of_mem_ofList {entry : String × α} (h : entry ∈ ofList entries) : entry ∈ entries := by
  induction entries using List.reverseRecOn with
  | nil => exact h
  | append_singleton entries last ih =>
    rw [ofList_append] at h
    rcases mem_put h with rfl | h
    · exact List.mem_append_right entries List.mem_cons_self
    · exact List.mem_append_left [last] (ih h)

/-- The names stand in the order in which they first come. -/
theorem names_ofList (entries : List (String × α)) :
    (ofList entries).map Prod.fst = (entries.map Prod.fst).eraseDups := by
  induction entries using List.reverseRecOn with
  | nil => rfl
  | append_singleton entries entry ih =>
    rw [ofList_append, names_put, ih, List.map_append, List.eraseDups_append, List.map_singleton]
    simp only [List.mem_eraseDups]
    split
    · next hmem => simp [List.removeAll, hmem]
    · next hmem => simp [List.removeAll, hmem, List.eraseDups_cons]

variable {β : Type}

theorem put_map (f : α → β) (entries : List (String × α)) :
    put name (f value) (entries.map fun entry => (entry.1, f entry.2)) =
      (put name value entries).map fun entry => (entry.1, f entry.2) := by
  induction entries with
  | nil => rfl
  | cons entry entries ih =>
    rw [List.map_cons, put, put, ih]
    split <;> rfl

theorem ofList_map (f : α → β) (entries : List (String × α)) :
    ofList (entries.map fun entry => (entry.1, f entry.2)) =
      (ofList entries).map fun entry => (entry.1, f entry.2) := by
  induction entries using List.reverseRecOn with
  | nil => rfl
  | append_singleton entries entry ih =>
    rw [List.map_append, List.map_singleton, ofList_append, ih, put_map, ofList_append]

theorem lookup_map_key (key : α → String) (f : α → β) (name : String) (as : List α) :
    (as.map fun a => (key a, f a)).lookup name = (as.find? (key · = name)).map f := by
  induction as with
  | nil => rfl
  | cons a as ih =>
    rw [List.map_cons, List.lookup_cons]
    by_cases h : key a = name
    · simp [h]
    · simp [h, beq_false_of_ne (Ne.symm h), ih]

theorem lookup_map_snd (f : α → β) (name : String) (entries : List (String × α)) :
    (entries.map fun entry => (entry.1, f entry.2)).lookup name =
      (entries.lookup name).map f := by
  induction entries with
  | nil => rfl
  | cons entry entries ih =>
    rw [List.map_cons, List.lookup_cons, List.lookup_cons]
    cases name == entry.1
    · exact ih
    · rfl

/-- A name finds related values in lists that give related values the same names. -/
theorem rel_lookup {R : α → β → Prop} {others : List (String × β)}
    (h : List.Forall₂ (fun entry other => entry.1 = other.1 ∧ R entry.2 other.2) entries others)
    (name : String) : Option.Rel R (entries.lookup name) (others.lookup name) := by
  induction h with
  | nil => exact .none
  | @cons entry other _ _ hfirst _ ih =>
    obtain ⟨key, held⟩ := entry
    obtain ⟨key', held'⟩ := other
    obtain ⟨rfl : key = key', hheld⟩ := hfirst
    rw [List.lookup_cons, List.lookup_cons]
    split
    · exact .some hheld
    · exact ih

theorem exists_of_rel {R : α → β → Prop} {found : Option α} {other : Option β}
    (h : Option.Rel R found other) (hfound : found = some value) :
    ∃ b, other = some b ∧ R value b := by
  rw [hfound] at h
  cases h with
  | some hb => exact ⟨_, rfl, hb⟩

end IdentityForms.Entries
