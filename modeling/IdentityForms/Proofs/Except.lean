import Mathlib.Data.List.Forall2

/-! What has happened when a computation that may fail has not failed, and what when it has. -/
namespace Except

variable {ε ε' α β : Type}

theorem map_eq_ok {x : Except ε α} {f : α → β} {b : β} :
    x.map f = .ok b ↔ ∃ a, x = .ok a ∧ f a = b := by
  cases x <;> simp [Except.map]

theorem bind_eq_ok {x : Except ε α} {f : α → Except ε β} {b : β} :
    x.bind f = .ok b ↔ ∃ a, x = .ok a ∧ f a = .ok b := by
  cases x <;> simp [Except.bind]

theorem do_eq_ok {x : Except ε α} {f : α → Except ε β} {b : β} :
    (do f (← x)) = .ok b ↔ ∃ a, x = .ok a ∧ f a = .ok b := bind_eq_ok

/-- Rewording an error makes nothing succeed. -/
theorem mapError_eq_ok {x : Except ε α} {reword : ε → ε'} {a : α} :
    x.mapError reword = .ok a ↔ x = .ok a := by
  cases x <;> simp [Except.mapError]

/-- A check that is made only under a condition. -/
theorem ite_do_eq_ok {p : Prop} [Decidable p] {check : Except ε Unit} {rest : Except ε α} {a : α} :
    (if p then (do check; rest) else rest) = .ok a ↔ (p → check = .ok ()) ∧ rest = .ok a := by
  by_cases h : p <;> cases check <;> simp [h, bind, Except.bind]

theorem mapM_eq_ok {f : α → Except ε β} {as : List α} {bs : List β} :
    as.mapM f = .ok bs ↔ List.Forall₂ (fun a b => f a = .ok b) as bs := by
  induction as generalizing bs with
  | nil => simp [pure, Except.pure, eq_comm]
  | cons a as ih =>
    rw [List.mapM_cons, do_eq_ok, List.forall₂_cons_left_iff]
    constructor
    · rintro ⟨b, hb, h⟩
      obtain ⟨bs', hbs, h⟩ := do_eq_ok.mp h
      cases h
      exact ⟨b, bs', hb, ih.mp hbs, rfl⟩
    · rintro ⟨b, bs', hb, hbs, rfl⟩
      exact ⟨b, hb, do_eq_ok.mpr ⟨bs', ih.mpr hbs, rfl⟩⟩

theorem do_eq_error {x : Except ε α} {f : α → Except ε β} {e : ε} :
    (do f (← x)) = .error e ↔ x = .error e ∨ ∃ a, x = .ok a ∧ f a = .error e := by
  cases x <;> simp [bind, Except.bind]

theorem map_eq_error {x : Except ε α} {f : α → β} {e : ε} : x.map f = .error e ↔ x = .error e := by
  cases x <;> simp [Except.map]

theorem mapError_eq_error {x : Except ε α} {reword : ε → ε'} {e : ε'} :
    x.mapError reword = .error e ↔ ∃ cause, x = .error cause ∧ reword cause = e := by
  cases x <;> simp [Except.mapError]

theorem ite_do_eq_error {p : Prop} [Decidable p] {check : Except ε Unit} {rest : Except ε α}
    {e : ε} : (if p then (do check; rest) else rest) = .error e ↔
      p ∧ check = .error e ∨ (p → check = .ok ()) ∧ rest = .error e := by
  by_cases h : p <;> cases check <;> simp [h, bind, Except.bind]

/-- A place in a list is at its head or in its tail. -/
theorem exists_split_cons {P : List α → α → Prop} {a : α} {as : List α} :
    (∃ before b after, a :: as = before ++ b :: after ∧ P before b) ↔
      P [] a ∨ ∃ before b after, as = before ++ b :: after ∧ P (a :: before) b := by
  constructor
  · rintro ⟨before, b, after, hsplit, h⟩
    cases before with
    | nil =>
      cases hsplit
      exact .inl h
    | cons c before =>
      obtain ⟨rfl, htail⟩ := List.cons.inj hsplit
      exact .inr ⟨before, b, after, htail, h⟩
  · rintro (h | ⟨before, b, after, rfl, h⟩)
    · exact ⟨[], a, as, rfl, h⟩
    · exact ⟨a :: before, b, after, rfl, h⟩

/-- The error is that of the first element that has one. -/
theorem mapM_eq_error {f : α → Except ε β} {as : List α} {e : ε} :
    as.mapM f = .error e ↔ ∃ before a after, as = before ++ a :: after ∧
      (∀ b ∈ before, ∃ c, f b = .ok c) ∧ f a = .error e := by
  induction as with
  | nil => simp [pure, Except.pure]
  | cons a as ih =>
    rw [List.mapM_cons, do_eq_error, exists_split_cons]
    apply or_congr
    · simp
    · simp only [do_eq_error, ih, pure, Except.pure, reduceCtorEq, and_false, exists_false, or_false,
        List.forall_mem_cons]
      constructor
      · rintro ⟨b, hb, before, c, after, hsplit, hbefore, hc⟩
        exact ⟨before, c, after, hsplit, ⟨⟨b, hb⟩, hbefore⟩, hc⟩
      · rintro ⟨before, c, after, hsplit, ⟨⟨b, hb⟩, hbefore⟩, hc⟩
        exact ⟨b, hb, before, c, after, hsplit, hbefore, hc⟩

theorem mapM_congr {f g : α → Except ε β} {as bs : List α}
    (h : List.Forall₂ (fun a b => f a = g b) as bs) : as.mapM f = bs.mapM g := by
  induction h with
  | nil => rfl
  | cons hab _ ih => rw [List.mapM_cons, List.mapM_cons, hab, ih]

/-- A list can be matched element by element just if each element can be matched. -/
theorem exists_forall₂ {R : α → β → Prop} {as : List α} :
    (∃ bs, List.Forall₂ R as bs) ↔ ∀ a ∈ as, ∃ b, R a b := by
  induction as with
  | nil => simp
  | cons a as ih =>
    rw [List.forall_mem_cons, ← ih]
    constructor
    · rintro ⟨_, h⟩
      obtain ⟨b, bs, hab, hbs, -⟩ := List.forall₂_cons_left_iff.mp h
      exact ⟨⟨b, hab⟩, bs, hbs⟩
    · rintro ⟨⟨b, hab⟩, bs, hbs⟩
      exact ⟨b :: bs, .cons hab hbs⟩

theorem forall₂_and_right {R : α → β → Prop} {P : β → Prop} {as : List α} {bs : List β} :
    List.Forall₂ (fun a b => R a b ∧ P b) as bs ↔ List.Forall₂ R as bs ∧ ∀ b ∈ bs, P b := by
  constructor
  · intro h
    induction h with
    | nil => exact ⟨.nil, by simp⟩
    | cons hab _ ih => exact ⟨.cons hab.1 ih.1, List.forall_mem_cons.mpr ⟨hab.2, ih.2⟩⟩
  · rintro ⟨h, hbs⟩
    induction h with
    | nil => exact .nil
    | cons hab _ ih =>
      obtain ⟨hb, hbs⟩ := List.forall_mem_cons.mp hbs
      exact .cons ⟨hab, hb⟩ (ih hbs)

theorem exists_of_mem_forall₂ {R : α → β → Prop} {as : List α} {bs : List β}
    (h : List.Forall₂ R as bs) {a : α} (ha : a ∈ as) : ∃ b, R a b ∧ b ∈ bs :=
  exists_forall₂.mp ⟨bs, forall₂_and_right.mpr ⟨h, fun _ => id⟩⟩ a ha

theorem exists_forall₂_left {R : α → β → Prop} {P : α → Prop} {bs : List β}
    (h : ∀ b ∈ bs, ∃ a, R a b ∧ P a) : ∃ as, List.Forall₂ R as bs ∧ ∀ a ∈ as, P a := by
  obtain ⟨as, has⟩ := exists_forall₂.mpr h
  obtain ⟨hR, hP⟩ := forall₂_and_right.mp has
  exact ⟨as, hR.flip, hP⟩

end Except
