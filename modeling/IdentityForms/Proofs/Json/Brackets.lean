import IdentityForms.Proofs.Json.Reading

/-! What stands in brackets is read by a run through its parts, each from the state that those
before it have left. -/
namespace IdentityForms.Json

variable {α β σ : Type} {mayFail : Prop} {wanted : α → Prop} {text rest : List Char}

theorem result_separator_comma {blank : List Char} (h : Blank blank) (close : Char)
    (rest : List Char) : (separator close).result (blank ++ ',' :: rest) = .ok (true, rest) := by
  rw [separator, result_spaced, h.skipSpace]
  exact Reader.result_demand_of_some (result_character_cons ',' rest) (if_pos rfl)

theorem skipSpace_close {close : Char} (h : close = ']' ∨ close = '}') (rest : List Char) :
    skipSpace (close :: rest) = close :: rest := by
  rcases h with rfl | rfl <;> rfl

theorem result_separator_close {blank : List Char} (h : Blank blank) {close : Char}
    (hclose : close = ']' ∨ close = '}') (rest : List Char) :
    (separator close).result (blank ++ close :: rest) = .ok (false, rest) := by
  have hcomma : close ≠ ',' := by rcases hclose with rfl | rfl <;> decide
  rw [separator, result_spaced, h.skipSpace, skipSpace_close hclose]
  refine Reader.result_demand_of_some (result_character_cons close rest) ?_
  rw [if_neg hcomma, if_pos rfl]

/-- Whether a run through parts, each written in its way, ends in a state that is wanted. -/
def Runs (mayFail : Prop) (part : σ → Reader σ) (Written : β → List Char → Prop)
    (wanted : σ → Prop) : List β → σ → Prop
  | [], state => wanted state
  | item :: items, state => ∀ text, Written item text →
    Ensures mayFail (part state) (Runs mayFail part Written wanted items) text

section

variable {part : σ → Reader σ} {Written : β → List Char → Prop} {wanted wanted' : σ → Prop}
  {items items' : List β} {state : σ}

theorem runs_append : Runs mayFail part Written wanted (items ++ items') state ↔
    Runs mayFail part Written (Runs mayFail part Written wanted items') items state := by
  induction items generalizing state with
  | nil => rfl
  | cons item items ih =>
    simp only [List.cons_append, Runs, funext fun state => propext (@ih state)]

theorem Runs.imp (h : Runs mayFail part Written wanted items state)
    (himp : ∀ state, wanted state → wanted' state) :
    Runs mayFail part Written wanted' items state := by
  induction items generalizing state with
  | nil => exact himp state h
  | cons item items ih => exact fun text htext => (h text htext).imp fun _ => ih

/-- Whatever every part preserves, a run preserves. -/
theorem runs_of_preserves (hpart : ∀ item ∈ items, ∀ state, wanted state → ∀ text,
      Written item text → Ensures mayFail (part state) wanted text) (h : wanted state) :
    Runs mayFail part Written wanted items state := by
  induction items generalizing state with
  | nil => exact h
  | cons item items ih =>
    rw [List.forall_mem_cons] at hpart
    exact fun text htext => (hpart.1 state h text htext).imp fun _ hwanted => ih hpart.2 hwanted

/-- Where every part preserves one property and another, a run leads from the one to the other if
one of its parts does. -/
theorem runs_of_mem (wanted : σ → Prop) {item : β} (hmem : item ∈ items)
    (hbefore : ∀ item ∈ items, ∀ state, wanted state → ∀ text, Written item text →
      Ensures mayFail (part state) wanted text)
    (hstep : ∀ state, wanted state → ∀ text, Written item text →
      Ensures mayFail (part state) wanted' text)
    (hafter : ∀ item ∈ items, ∀ state, wanted' state → ∀ text, Written item text →
      Ensures mayFail (part state) wanted' text) (h : wanted state) :
    Runs mayFail part Written wanted' items state := by
  obtain ⟨front, back, rfl⟩ := List.append_of_mem hmem
  rw [List.forall_mem_append, List.forall_mem_cons] at hbefore hafter
  refine runs_append.mpr (Runs.imp (runs_of_preserves hbefore.1 h) ?_)
  intro state h text htext
  exact (hstep state h text htext).imp fun _ => runs_of_preserves hafter.2.2

theorem runs_foldl {step : σ → β → σ} (hpart : ∀ item ∈ items, ∀ text, Written item text →
      ∀ state, Covers (part state) (step state item) text) :
    Runs mayFail part Written (· = items.foldl step state) items state := by
  induction items generalizing state with
  | nil => rfl
  | cons item items ih =>
    rw [List.forall_mem_cons] at hpart
    exact fun text htext => (hpart.1 text htext state).ensures (ih hpart.2)

variable {close : Char} {texts : List (List Char)}

/-- Parts with commas between them are read one after another. -/
theorem meets_partsFrom (hclose : close = ']' ∨ close = '}')
    (hwritten : List.Forall₂ Written items texts) (hne : texts ≠ [])
    (hruns : Runs mayFail part Written wanted items state) (rest : List Char) :
    Meets mayFail wanted rest (Reader.result (partsFrom close part state)
      ([','].intercalate texts ++ close :: rest)) := by
  induction hwritten generalizing state with
  | nil => exact absurd rfl hne
  | @cons item text items texts htext hwritten ih =>
    cases texts with
    | nil =>
      cases hwritten
      have hends : Ends (close :: rest) := by
        intro c hc
        cases hc
        rcases hclose with rfl | rfl <;> decide
      rw [List.intercalate_singleton, result_partsFrom]
      refine (hruns text htext _ hends).bind fun state blank hwanted hblank => ?_
      rw [result_separator_close hblank hclose]
      exact .self hwanted rest
    | cons second texts =>
      have hends : Ends (',' :: ([','].intercalate (second :: texts) ++ close :: rest)) := by
        intro c hc
        cases hc
        decide
      rw [List.intercalate_cons_cons, List.append_assoc, List.append_assoc, List.singleton_append,
        result_partsFrom]
      refine (hruns text htext _ hends).bind fun state blank hruns hblank => ?_
      rw [result_separator_comma hblank]
      exact ih (by simp) hruns

theorem result_spaced_exactly_of_starts (hclose : close ∈ endings) (h : Padded Starts text)
    (rest : List Char) : (spaced (exactly close)).result (text ++ rest) = .error .malformed := by
  obtain ⟨before, inner, after, hbefore, hinner, -, rfl⟩ := h
  rw [result_spaced, List.append_assoc, List.append_assoc, hbefore.skipSpace, hinner.skipSpace]
  obtain ⟨c, tail, rfl, hc⟩ := hinner
  refine result_exactly_of_ne ?_ _
  rintro rfl
  exact hc hclose

theorem exists_append_of_intercalate (first : List Char) (texts : List (List Char)) :
    ∃ more, [','].intercalate (first :: texts) = first ++ more := by
  cases texts with
  | nil => exact ⟨[], by simp⟩
  | cons second texts =>
    rw [List.intercalate_cons_cons, List.append_assoc]
    exact ⟨_, rfl⟩

/-- What is in brackets is read by a run through its parts. -/
theorem ensures_parts {left : Char} (hclose : close = ']' ∨ close = '}')
    (hstarts : ∀ item ∈ items, ∀ text, Written item text → Padded Starts text)
    (hwritten : List.Forall₂ Written items texts)
    (h : Bracketed left close texts (left :: text))
    (hruns : Runs mayFail part Written wanted items state) :
    Ensures mayFail (parts close part state) wanted text := by
  intro rest _
  rw [parts, Reader.result_orElse, Reader.result_map]
  cases h with
  | empty blank hblank =>
    cases hwritten
    rw [result_spaced, List.append_assoc, List.singleton_append, hblank.skipSpace,
      skipSpace_close hclose, result_exactly]
    exact .self hruns rest
  | parts _ hne =>
    have hread := meets_partsFrom hclose hwritten hne hruns rest
    have hends : close ∈ endings := by rcases hclose with rfl | rfl <;> decide
    -- No part begins with the closing bracket, so a text with parts is not taken for an empty one.
    cases hwritten with
    | nil => exact absurd rfl hne
    | @cons item first items texts hfirst _ =>
      obtain ⟨more, hmore⟩ := exists_append_of_intercalate first texts
      rw [List.append_assoc, List.singleton_append]
      rw [hmore, List.append_assoc] at hread ⊢
      rw [result_spaced_exactly_of_starts hends
        (hstarts item List.mem_cons_self first hfirst)]
      exact hread

end

namespace Assembly

variable {assembly : Assembly α σ} {inner : Reader α} {Written : β → List Char → Prop}
  {items : List β} {texts : List (List Char)}

/-- A value that begins right here, with brackets at most `depth` deep. -/
def here (assembly : Assembly α σ) : (depth : Nat) → Reader α
  | 0 => assembly.readHere none
  | depth + 1 => assembly.readHere (some (assembly.read depth))

theorem read_eq_spaced (assembly : Assembly α σ) (depth : Nat) :
    assembly.read depth = spaced (assembly.here depth) := by
  cases depth <;> rfl

theorem readHere_of_startsScalar {inner? : Option (Reader α)} (h : StartsScalar text) :
    assembly.readHere inner? text = assembly.scalar text := by
  obtain ⟨c, tail, rfl, hc⟩ := h
  simp only [List.mem_cons, not_or] at hc
  rw [readHere]
  · exact fun _ _ heq _ => hc.1 (List.cons.inj heq).1
  · exact fun _ _ heq _ => hc.2.1 (List.cons.inj heq).1

theorem ensures_here_of_scalar {depth : Nat} (hstarts : StartsScalar text)
    (h : Ensures mayFail assembly.scalar wanted text) :
    Ensures mayFail (assembly.here depth) wanted text := by
  refine h.of_result_eq fun rest => ?_
  have happend : StartsScalar (text ++ rest) := by
    obtain ⟨c, tail, rfl, hc⟩ := hstarts
    exact ⟨c, tail ++ rest, rfl, hc⟩
  unfold Reader.result
  cases depth <;> rw [here, readHere_of_startsScalar happend]

theorem ensures_number {numeral : Numeral} (h : NumeralText numeral text)
    (hnumber : Ensures mayFail assembly.number wanted text) :
    Ensures mayFail assembly.scalar wanted text := by
  refine hnumber.of_result_eq fun rest => ?_
  obtain ⟨c, tail, rfl, hc⟩ := h.exists_cons
  have hne {d : Char} (hd : d ≠ '-' ∧ d.isDigit = false) : c ≠ d := by
    rintro rfl
    rcases hc with hsign | hdigit
    · exact hd.1 hsign
    · exact absurd hdigit (by simp [hd.2])
  unfold Reader.result
  rw [List.cons_append, scalar, if_pos hc]
  · exact hne (by decide)
  · exact hne (by decide)
  · exact hne (by decide)
  · exact hne (by decide)

theorem ensures_string (assembly : Assembly α σ) {names : String → Prop}
    (h : Quoted mayFail (quoted assembly.strictness) names text) :
    Ensures mayFail assembly.scalar (fun value => ∃ name, names name ∧ value = assembly.string name)
      text := by
  obtain ⟨inner, rfl, hinner⟩ := h
  have hvalue : Ensures mayFail (Reader.map assembly.string (Json.quoted assembly.strictness))
      (fun value => ∃ name, names name ∧ value = assembly.string name) inner :=
    hinner.ensures.map fun name hname => ⟨name, hname, rfl⟩
  exact hvalue.of_result_eq fun rest => Reader.map_pair_past _ _ _

theorem ensures_member {names : String → Prop} {key value : List Char}
    (hkey : Padded (Quoted mayFail (quoted assembly.strictness) names) key)
    (hvalue : Ensures mayFail inner wanted value) (members : σ) :
    Ensures mayFail (assembly.member inner members) (fun members' => ∃ name value, names name ∧
      wanted value ∧ members' = assembly.putMember name value members) (key ++ ':' :: value) :=
  ensures_key hkey fun name _ hname hblank => ensures_colon hblank <|
    hvalue.map fun value hwanted => ⟨name, value, hname, hwanted, rfl⟩

theorem ensures_array {wanted : List α → Prop}
    (hstarts : ∀ item ∈ items, ∀ text, Written item text → Padded Starts text)
    (hwritten : List.Forall₂ Written items texts) (h : Bracketed '[' ']' texts text)
    (hruns : Runs mayFail (item inner) Written wanted items []) :
    Ensures mayFail (assembly.readHere (some inner))
      (fun value => ∃ values, wanted values ∧ value = assembly.array values.reverse) text := by
  obtain ⟨tail, rfl⟩ := h.exists_cons
  have hparts := ensures_parts (.inl rfl) hstarts hwritten h hruns
  have hvalue : Ensures mayFail (Reader.map (fun values => assembly.array values.reverse)
      (parts ']' (item inner) []))
      (fun value => ∃ values, wanted values ∧ value = assembly.array values.reverse) tail :=
    hparts.map fun values hwanted => ⟨values, hwanted, rfl⟩
  exact hvalue.of_result_eq fun rest => Reader.map_pair_past _ _ _

theorem ensures_object {wanted : σ → Prop}
    (hstarts : ∀ item ∈ items, ∀ text, Written item text → Padded Starts text)
    (hwritten : List.Forall₂ Written items texts) (h : Bracketed '{' '}' texts text)
    (hruns : Runs mayFail (assembly.member inner) Written wanted items assembly.noMembers) :
    Ensures mayFail (assembly.readHere (some inner))
      (fun value => ∃ members, wanted members ∧ value = assembly.object members) text := by
  obtain ⟨tail, rfl⟩ := h.exists_cons
  have hparts := ensures_parts (.inr rfl) hstarts hwritten h hruns
  have hvalue : Ensures mayFail (Reader.map assembly.object
      (parts '}' (assembly.member inner) assembly.noMembers))
      (fun value => ∃ members, wanted members ∧ value = assembly.object members) tail :=
    hparts.map fun members hwanted => ⟨members, hwanted, rfl⟩
  exact hvalue.of_result_eq fun rest => Reader.map_pair_past _ _ _

end Assembly

end IdentityForms.Json
