import IdentityForms.Proofs.Json.Shape

/-! What a reader makes of a text, whatever follows it that may follow a value. Of some readers it
is known only what they give if they do not fail. -/
namespace IdentityForms.Json

variable {α β σ : Type} {mayFail : Prop} {wanted : α → Prop} {wanted' : β → Prop}
  {reader : Reader α} {value : α} {text rest : List Char}

theorem isSpace_iff {c : Char} : isSpace c ↔ c ∈ [' ', '\t', '\n', '\r'] := by
  simp [isSpace, or_assoc]

theorem Blank.skipSpace {blank : List Char} (h : Blank blank) (text : List Char) :
    skipSpace (blank ++ text) = skipSpace text :=
  List.dropWhile_append_of_pos fun c hc => isSpace_iff.mpr (h c hc)

theorem Blank.ends {blank : List Char} (h : Blank blank) (hrest : Ends rest) :
    Ends (blank ++ rest) := by
  cases blank with
  | nil => exact hrest
  | cons c blank =>
    intro _ hc
    cases hc
    exact List.mem_append_left [',', ']', '}'] (h c List.mem_cons_self)

theorem Starts.skipSpace (h : Starts text) (rest : List Char) :
    skipSpace (text ++ rest) = text ++ rest := by
  obtain ⟨c, tail, rfl, hc⟩ := h
  refine List.dropWhile_cons_of_neg fun hspace => hc ?_
  exact List.mem_append_left [',', ']', '}'] (isSpace_iff.mp hspace)

/-- What is to come of reading a text that `rest` follows: a value that is wanted, with no more than
white space left of the text itself. -/
def Meets (mayFail : Prop) (wanted : α → Prop) (rest : List Char) :
    Except Fault (α × List Char) → Prop
  | .error _ => mayFail
  | .ok (value, left) => wanted value ∧ ∃ blank, Blank blank ∧ left = blank ++ rest

namespace Meets

variable {read : Except Fault (α × List Char)}

theorem self (h : wanted value) (rest : List Char) :
    Meets mayFail wanted rest (.ok (value, rest)) :=
  ⟨h, [], by simp [Blank], rfl⟩

theorem imp {mayFail' : Prop} {wanted' : α → Prop} (h : Meets mayFail wanted rest read)
    (hfail : mayFail → mayFail') (himp : ∀ value, wanted value → wanted' value) :
    Meets mayFail' wanted' rest read := by
  cases read with
  | error fault => exact hfail h
  | ok read => exact ⟨himp read.1 h.1, h.2⟩

theorem map {f : α → β} (h : Meets mayFail wanted rest read)
    (hf : ∀ value, wanted value → wanted' (f value)) :
    Meets mayFail wanted' rest (read.map (·.map f id)) := by
  cases read with
  | error fault => exact h
  | ok read => exact ⟨hf read.1 h.1, h.2⟩

theorem bind {next : α × List Char → Except Fault (β × List Char)} {rest' : List Char}
    (h : Meets mayFail wanted rest read) (hnext : ∀ value blank, wanted value → Blank blank →
      Meets mayFail wanted' rest' (next (value, blank ++ rest))) :
    Meets mayFail wanted' rest' (read.bind next) := by
  cases read with
  | error fault => exact h
  | ok read =>
    obtain ⟨value, left⟩ := read
    obtain ⟨hwanted, blank, hblank, rfl⟩ := h
    exact hnext value blank hwanted hblank

theorem of_blank {blank : List Char} (hblank : Blank blank)
    (h : Meets mayFail wanted (blank ++ rest) read) : Meets mayFail wanted rest read := by
  cases read with
  | error fault => exact h
  | ok read =>
    obtain ⟨hwanted, before, hbefore, hleft⟩ := h
    refine ⟨hwanted, before ++ blank, List.forall_mem_append.mpr ⟨hbefore, hblank⟩, ?_⟩
    rw [hleft, List.append_assoc]

end Meets

/-- Whether that comes of a text wherever a value may end. -/
def Ensures (mayFail : Prop) (reader : Reader α) (wanted : α → Prop) (text : List Char) : Prop :=
  ∀ rest, Ends rest → Meets mayFail wanted rest (reader.result (text ++ rest))

/-- Whether a reader takes a text for a value. -/
def Covers (reader : Reader α) (value : α) (text : List Char) : Prop :=
  Ensures False reader (· = value) text

/-- Whether a reader fails on a text. -/
def Refuses (reader : Reader α) (text : List Char) : Prop :=
  Ensures True reader (fun _ => False) text

theorem covers_of_result
    (h : ∀ rest, Ends rest → reader.result (text ++ rest) = .ok (value, rest)) :
    Covers reader value text := by
  intro rest hrest
  rw [h rest hrest]
  exact ⟨rfl, [], by simp [Blank], rfl⟩

theorem refuses_of_result (h : ∀ rest, ∃ fault, reader.result (text ++ rest) = .error fault) :
    Refuses reader text := by
  intro rest _
  obtain ⟨fault, hfault⟩ := h rest
  rw [hfault]
  trivial

theorem Covers.ensures (h : Covers reader value text) (hvalue : wanted value) :
    Ensures mayFail reader wanted text :=
  fun rest hrest => (h rest hrest).imp False.elim fun _ heq => heq ▸ hvalue

theorem Refuses.ensures (h : Refuses reader text) (wanted : α → Prop) :
    Ensures True reader wanted text :=
  fun rest hrest => (h rest hrest).imp id fun _ => False.elim

namespace Ensures

theorem imp {wanted' : α → Prop} (h : Ensures mayFail reader wanted text)
    (himp : ∀ value, wanted value → wanted' value) : Ensures mayFail reader wanted' text :=
  fun rest hrest => (h rest hrest).imp id himp

theorem of_result_eq {reader' : Reader α} {text' : List Char}
    (h : Ensures mayFail reader wanted text)
    (heq : ∀ rest, reader'.result (text' ++ rest) = reader.result (text ++ rest)) :
    Ensures mayFail reader' wanted text' := by
  intro rest hrest
  rw [heq]
  exact h rest hrest

theorem map {f : α → β} (h : Ensures mayFail reader wanted text)
    (hf : ∀ value, wanted value → wanted' (f value)) :
    Ensures mayFail (Reader.map f reader) wanted' text := by
  intro rest hrest
  rw [Reader.result_map]
  exact (h rest hrest).map hf

theorem demand {fault : Fault} {pick : α → Option β} (h : Ensures mayFail reader wanted text)
    (hsome : ∀ value picked, wanted value → pick value = some picked → wanted' picked)
    (hnone : ∀ value, wanted value → pick value = none → mayFail) :
    Ensures mayFail (reader.demand fault pick) wanted' text := by
  intro rest hrest
  rw [Reader.result_demand]
  refine (h rest hrest).bind fun value blank hwanted hblank => ?_
  cases hpick : pick value with
  | none => exact hnone value hwanted hpick
  | some picked => exact ⟨hsome value picked hwanted hpick, blank, hblank, rfl⟩

/-- White space may stand around what is read. -/
theorem spaced {Inner : List Char → Prop} (hstarts : ∀ inner, Inner inner → Starts inner)
    (hreader : ∀ inner, Inner inner → Ensures mayFail reader wanted inner)
    (h : Padded Inner text) : Ensures mayFail (spaced reader) wanted text := by
  obtain ⟨before, inner, after, hbefore, hinner, hafter, rfl⟩ := h
  intro rest hrest
  rw [result_spaced, List.append_assoc, List.append_assoc, hbefore.skipSpace,
    (hstarts inner hinner).skipSpace]
  exact .of_blank hafter (hreader inner hinner (after ++ rest) (hafter.ends hrest))

end Ensures

theorem Covers.map (h : Covers reader value text) (f : α → β) :
    Covers (Reader.map f reader) (f value) text :=
  Ensures.map h fun _ heq => congrArg f heq

theorem Covers.demand (h : Covers reader value text) {fault : Fault} {pick : α → Option β}
    {picked : β} (hpick : pick value = some picked) :
    Covers (reader.demand fault pick) picked text := by
  refine Ensures.demand h ?_ ?_
  · rintro _ _ rfl hother
    exact Option.some.inj (hother.symm.trans hpick)
  · rintro _ rfl hnone
    cases hnone.symm.trans hpick

theorem Covers.run {text : String} (h : Covers reader value text.toList) :
    reader.run text = .ok value := by
  have hread := h [] (by simp [Ends])
  rw [List.append_nil] at hread
  unfold Reader.run
  cases hresult : reader.result text.toList with
  | error fault =>
    rw [hresult] at hread
    exact hread.elim
  | ok read =>
    rw [hresult] at hread
    obtain ⟨rfl, blank, hblank, hleft⟩ := hread
    exact if_pos (hleft ▸ hblank.skipSpace [])

theorem Refuses.run {text : String} (h : Refuses reader text.toList) :
    ∃ fault, reader.run text = .error fault := by
  have hread := h [] (by simp [Ends])
  rw [List.append_nil] at hread
  unfold Reader.run
  cases hresult : reader.result text.toList with
  | error fault => exact ⟨fault, rfl⟩
  | ok read =>
    rw [hresult] at hread
    exact hread.1.elim

theorem result_exactly_of_ne {c d : Char} (h : d ≠ c) (rest : List Char) :
    (exactly c).result (d :: rest) = .error .malformed := by
  rw [exactly, Reader.result_demand, result_character_cons, Except.bind, if_neg h]

theorem result_spaced_exactly {blank : List Char} (h : Blank blank) {c : Char}
    (hc : isSpace c = false) (rest : List Char) :
    (spaced (exactly c)).result (blank ++ c :: rest) = .ok ((), rest) := by
  rw [result_spaced, h.skipSpace, skipSpace, List.dropWhile_cons_of_neg (by simp [hc])]
  exact result_exactly c rest

/-- Whether a reader takes a text for a value that is wanted, whatever follows, or else fails
whatever follows. -/
def Settles (mayFail : Prop) (reader : Reader α) (wanted : α → Prop) (text : List Char) : Prop :=
  (∃ value, wanted value ∧ ∀ rest, reader.result (text ++ rest) = .ok (value, rest)) ∨
    mayFail ∧ ∀ rest, ∃ fault, reader.result (text ++ rest) = .error fault

theorem Settles.of_result_eq {reader' : Reader α} {text' : List Char}
    (h : Settles mayFail reader wanted text)
    (heq : ∀ rest, reader'.result (text' ++ rest) = reader.result (text ++ rest)) :
    Settles mayFail reader' wanted text' := by
  simpa only [Settles, heq] using h

theorem Settles.map {f : α → β} (h : Settles mayFail reader wanted text)
    (hf : ∀ value, wanted value → wanted' (f value)) :
    Settles mayFail (Reader.map f reader) wanted' text := by
  rcases h with ⟨value, hvalue, hread⟩ | ⟨hfail, hread⟩
  · exact .inl ⟨f value, hf value hvalue, fun rest => Reader.result_map_of_ok (hread rest) f⟩
  · refine .inr ⟨hfail, fun rest => ?_⟩
    obtain ⟨fault, hfault⟩ := hread rest
    exact ⟨fault, by rw [Reader.result_map, hfault]; rfl⟩

theorem Settles.demand (h : Settles mayFail reader wanted text) (hfail : mayFail) (fault : Fault)
    (pick : α → Option β) : Settles mayFail (reader.demand fault pick) (fun _ => True) text := by
  rcases h with ⟨value, -, hread⟩ | ⟨-, hread⟩
  · cases hpick : pick value with
    | none =>
      refine .inr ⟨hfail, fun rest => ⟨fault, ?_⟩⟩
      rw [Reader.result_demand, hread, Except.bind, hpick]
    | some picked =>
      exact .inl ⟨picked, trivial, fun rest => Reader.result_demand_of_some (hread rest) hpick⟩
  · refine .inr ⟨hfail, fun rest => ?_⟩
    obtain ⟨fault', hfault⟩ := hread rest
    exact ⟨fault', by rw [Reader.result_demand, hfault]; rfl⟩

theorem Settles.bind {next : α → Reader β} {text' : List Char}
    (h : Settles mayFail reader wanted text)
    (hnext : ∀ value, wanted value → Settles mayFail (next value) wanted' text') :
    Settles mayFail (reader.bind next) wanted' (text ++ text') := by
  rcases h with ⟨value, hvalue, hread⟩ | ⟨hfail, hread⟩
  · have heq (rest : List Char) : (reader.bind next).result (text ++ text' ++ rest) =
        (next value).result (text' ++ rest) := by
      rw [List.append_assoc]
      exact Reader.result_bind_of_ok (hread _) next
    rcases hnext value hvalue with ⟨value', hvalue', hread'⟩ | ⟨hfail, hread'⟩
    · exact .inl ⟨value', hvalue', fun rest => (heq rest).trans (hread' rest)⟩
    · exact .inr ⟨hfail, fun rest => heq rest ▸ hread' rest⟩
  · refine .inr ⟨hfail, fun rest => ?_⟩
    obtain ⟨fault, hfault⟩ := hread (text' ++ rest)
    refine ⟨fault, ?_⟩
    rw [List.append_assoc, Reader.result_bind, hfault]
    rfl

theorem Settles.bind_ensures {next : α → Reader β} {text' : List Char}
    (h : Settles mayFail reader wanted text)
    (hnext : ∀ value, wanted value → Ensures mayFail (next value) wanted' text') :
    Ensures mayFail (reader.bind next) wanted' (text ++ text') := by
  intro rest hrest
  rw [List.append_assoc, Reader.result_bind]
  rcases h with ⟨value, hvalue, hread⟩ | ⟨hfail, hread⟩
  · rw [hread]
    exact hnext value hvalue rest hrest
  · obtain ⟨fault, hfault⟩ := hread (text' ++ rest)
    rw [hfault]
    exact hfail

theorem Settles.ensures (h : Settles mayFail reader wanted text) :
    Ensures mayFail reader wanted text := by
  intro rest _
  rcases h with ⟨value, hvalue, hread⟩ | ⟨hfail, hread⟩
  · rw [hread]
    exact .self hvalue rest
  · obtain ⟨fault, hfault⟩ := hread rest
    rw [hfault]
    exact hfail

/-- Whether a reader that begins after a quotation mark settles on what is wanted. -/
def Quoted (mayFail : Prop) (reader : Reader α) (wanted : α → Prop) (text : List Char) : Prop :=
  ∃ inner, text = '"' :: inner ∧ Settles mayFail reader wanted inner

theorem StringText.quoted {name : String} (h : StringText name text) (mayFail : Prop) :
    Quoted mayFail (Json.quoted .full) (· = name) text := by
  obtain ⟨inner, rfl⟩ := h.exists_cons
  exact ⟨inner, rfl, .inl ⟨name, rfl, result_quoted h⟩⟩

section

variable {key blank : List Char}

theorem ensures_colon (hblank : Blank blank) (h : Ensures mayFail reader wanted text) :
    Ensures mayFail ((spaced (exactly ':')).bind fun _ => reader) wanted
      (blank ++ ':' :: text) := by
  refine h.of_result_eq fun rest => ?_
  rw [List.append_assoc]
  exact Reader.result_bind_of_ok (result_spaced_exactly hblank (by decide) _) _

theorem ensures_key {next : α → Reader β} (hkey : Padded (Quoted mayFail reader wanted) key)
    (hnext : ∀ name blank, wanted name → Blank blank →
      Ensures mayFail (next name) wanted' (blank ++ text)) :
    Ensures mayFail ((spaced (exactly '"')).bind fun _ => reader.bind next) wanted'
      (key ++ text) := by
  obtain ⟨before, _, after, hbefore, ⟨inner, rfl, hinner⟩, hafter, rfl⟩ := hkey
  have hread := hinner.bind_ensures fun name hname => hnext name after hname hafter
  refine hread.of_result_eq fun rest => ?_
  have htext : before ++ ('"' :: inner ++ after) ++ text ++ rest =
      before ++ '"' :: (inner ++ (after ++ text) ++ rest) := by simp
  rw [htext]
  exact Reader.result_bind_of_ok (result_spaced_exactly hbefore (by decide) _) _

end

end IdentityForms.Json
