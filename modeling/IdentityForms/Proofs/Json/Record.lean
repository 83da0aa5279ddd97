import IdentityForms.Json.Record
import IdentityForms.Proofs.Json.Completeness
import IdentityForms.Proofs.Json.Passing
import Mathlib.Data.List.Nodup
import Mathlib.Data.List.ReduceOption

/-! Records are read to what they say, from objects with their members in any order and others in
between, and from arrays. -/
namespace IdentityForms.Json

variable {α σ κ : Type} {mayFail : Prop} {wanted : α → Prop} {text : List Char}

theorem ensures_fitting {pick : Json → Option α} {Inner : List Char → Prop}
    (hstarts : ∀ inner, Inner inner → StartsScalar inner)
    (hread : ∀ inner, Inner inner →
      Ensures mayFail (Assembly.kept.scalar.demand .mismatched pick) wanted inner)
    (h : Padded Inner text) : Ensures mayFail (fitting pick) wanted text := by
  refine .spaced (fun inner hinner => (hstarts inner hinner).starts) (fun inner hinner => ?_) h
  refine (hread inner hinner).of_result_eq fun rest => ?_
  obtain ⟨c, tail, rfl, hc⟩ := hstarts inner hinner
  simp only [List.mem_cons, not_or] at hc
  generalize hwhole : c :: tail ++ rest = whole
  unfold Reader.result
  congr 1
  dsimp only
  split
  · exact absurd (List.cons.inj hwhole).1 hc.1
  · exact absurd (List.cons.inj hwhole).1 hc.2.1
  · rfl

theorem covers_fitting {pick : Json → Option α} {json : Json} {a : α} (hpick : pick json = some a)
    (h : Padded (ScalarText json) text) : Covers (fitting pick) a text :=
  ensures_fitting (fun _ hscalar => hscalar.shape.startsScalar)
    (fun _ hscalar => (Assembly.covers_scalar hscalar).demand hpick) h

theorem covers_choice {ofName? : String → Option α} {name : String} {a : α}
    (hname : ofName? name = some a) (h : Padded (StringText name) text) :
    Covers (choice ofName?) a text := by
  refine .spaced (fun _ => StringText.starts) (fun inner hinner => ?_) h
  obtain ⟨tail, rfl⟩ := hinner.exists_cons
  have hquoted : Covers (quoted .full) name tail :=
    covers_of_result fun rest _ => result_quoted hinner rest
  have hread : Covers ((quoted .full).demand .mismatched ofName?) a tail := hquoted.demand hname
  exact hread.of_result_eq fun rest => Reader.map_pair_past _ _ _

/-- A member of an object that has one of the keys that matter, or another with any value. -/
inductive PartText (key : κ → String) (Value : κ → List Char → Prop) :
    Option κ → List Char × List Char → Prop where
  | known (k : κ) (member : List Char × List Char) (hkey : StringText (key k) member.1)
      (hvalue : Value k member.2) : PartText key Value (some k) member
  | other (name : String) (depth : Nat) (member : List Char × List Char)
      (hname : ∀ k, key k ≠ name) (hkey : StringText name member.1)
      (hvalue : ValueShape depth member.2) : PartText key Value none member

theorem PartText.starts {key : κ → String} {Value : κ → List Char → Prop} {part : Option κ}
    {member : List Char × List Char} (h : PartText key Value part member) : Starts member.1 := by
  cases h with
  | known _ _ hkey _ => exact hkey.starts
  | other _ _ _ _ hkey _ => exact hkey.starts

/-- A record of which some members are written: those of an object in any order, and of an array
those in front. -/
inductive SelectionText (all : List κ) (key : κ → String) (Value : κ → List Char → Prop) :
    List κ → List Char → Prop where
  | object (parts : List (Option κ)) (members : List (List Char × List Char)) (text : List Char)
      (hparts : List.Forall₂ (PartText key Value) parts members)
      (hdistinct : parts.reduceOption.Nodup) (h : ObjectOf members text) :
      SelectionText all key Value parts.reduceOption text
  | array (count : Nat) (items : List (List Char)) (text : List Char)
      (hitems : List.Forall₂ Value (all.take count) items) (h : ArrayOf items text) :
      SelectionText all key Value (all.take count) text

section

variable {all known : List κ} {key : κ → String} {Value : κ → List Char → Prop}

theorem SelectionText.starts (h : SelectionText all key Value known text) : Starts text := by
  cases h with
  | object _ _ _ _ _ h => exact h.starts
  | array _ _ _ _ h => exact h.starts

/-- Members that have texts can be written in any order. -/
theorem exists_selectionText (all : List κ) (key : κ → String)
    (hvalue : ∀ k, ∃ text, Value k text) (hdistinct : known.Nodup) :
    ∃ text, SelectionText all key Value known text := by
  have hpart (part : Option κ) (hmem : part ∈ known.map some) :
      ∃ member, PartText key Value part member := by
    obtain ⟨k, -, rfl⟩ := List.mem_map.mp hmem
    obtain ⟨keyText, hkey⟩ := exists_stringText (key k)
    obtain ⟨valueText, hvalue⟩ := hvalue k
    exact ⟨(keyText, valueText), .known k _ hkey hvalue⟩
  obtain ⟨members, hmembers⟩ := Except.exists_forall₂.mpr hpart
  have hknown : (known.map some).reduceOption = known := by
    simp [List.reduceOption, List.filterMap_map]
  have htext : SelectionText all key Value (known.map some).reduceOption _ :=
    .object _ members _ hmembers (hknown.symm ▸ hdistinct) (objectOf_joined members)
  rw [hknown] at htext
  exact ⟨_, htext⟩

end

namespace Record

/-- Whether a record has a member for each key, which puts into the record what its value says. -/
structure Serves (record : Record σ) (all : List κ) (key : κ → String)
    (Value : κ → List Char → Prop) (put : κ → σ → σ) : Prop where
  complete : ∀ k, k ∈ all
  distinct : (all.map key).Nodup
  starts : ∀ k text, Value k text → Starts text
  members : List.Forall₂ (fun k member => member.name = key k ∧
    ∀ text, Padded (Value k) text → Covers member.change (put k) text) all record.members

/-- How reading the members of some keys changes what is still to come and what there is. -/
structure Puts (key : κ → String) (put : κ → σ → σ) (known : List κ) (before after : Progress σ) :
    Prop where
  left : ∀ member ∈ after.1, member ∈ before.1 ∧ ∀ k ∈ known, member.name ≠ key k
  made : after.2 = known.foldl (fun record k => put k record) before.2

variable {record : Record σ} {all : List κ} {key : κ → String} {Value : κ → List Char → Prop}
  {put : κ → σ → σ} {progress : Progress σ} {k : κ}

theorem puts_nil (key : κ → String) (put : κ → σ → σ) (progress : Progress σ) :
    Puts key put [] progress progress :=
  ⟨fun member hmem => ⟨hmem, by simp⟩, rfl⟩

section

variable {wanted : Progress σ → Prop} {made : σ → Prop} (hfinish : ∀ reader text,
  Ensures mayFail reader wanted text →
    Ensures mayFail (reader.demand .mismatched record.finish) made text)
include hfinish

theorem ensures_read_of_object {members : List (List Char × List Char)}
    (hstarts : ∀ member ∈ members, Starts member.1)
    (hruns : Runs mayFail record.named MemberOf wanted members (record.members, record.initial))
    (h : Padded (ObjectOf members) text) : Ensures mayFail record.read made text := by
  refine .spaced (fun _ hobject => hobject.starts) (fun inner hobject => ?_) h
  obtain ⟨texts, htexts, hbracketed⟩ := hobject
  obtain ⟨tail, rfl⟩ := hbracketed.exists_cons
  have hparts := ensures_parts (.inr rfl)
    (fun member hmem _ htext => htext.starts (hstarts member hmem)) htexts hbracketed hruns
  exact (hfinish _ _ hparts).of_result_eq fun rest => Reader.map_pair_past _ _ _

theorem ensures_read_of_array {items : List (List Char)} (hstarts : ∀ item ∈ items, Starts item)
    (hruns : Runs mayFail inOrder (fun item => Padded (· = item)) wanted items
      (record.members, record.initial))
    (h : Padded (ArrayOf items) text) : Ensures mayFail record.read made text := by
  refine .spaced (fun _ harray => harray.starts) (fun inner harray => ?_) h
  obtain ⟨texts, htexts, hbracketed⟩ := harray
  obtain ⟨tail, rfl⟩ := hbracketed.exists_cons
  have hparts := ensures_parts (.inl rfl)
    (fun item hmem _ htext => htext.imp fun _ heq => heq ▸ hstarts item hmem) htexts hbracketed
    hruns
  exact (hfinish _ _ hparts).of_result_eq fun rest => Reader.map_pair_past _ _ _

end

namespace Serves

variable (h : record.Serves all key Value put)
include h

theorem eq_of_key_eq {k k' : κ} (heq : key k = key k') : k = k' :=
  List.inj_on_of_nodup_map h.distinct (h.complete k) (h.complete k') heq

theorem exists_member (k : κ) : ∃ member ∈ record.members, member.name = key k := by
  obtain ⟨member, ⟨hname, -⟩, hmem⟩ := Except.exists_of_mem_forall₂ h.members (h.complete k)
  exact ⟨member, hmem, hname⟩

theorem exists_key {member : Member σ} (hmem : member ∈ record.members) :
    ∃ k, member.name = key k ∧
      ∀ text, Padded (Value k) text → Covers member.change (put k) text := by
  obtain ⟨k, hk, -⟩ := Except.exists_of_mem_forall₂ h.members.flip hmem
  exact ⟨k, hk⟩

/-- A member that is still to come is read by the member of its key. -/
theorem covers_named (hsub : progress.1 ⊆ record.members)
    (hleft : ∃ member ∈ progress.1, member.name = key k) {member : List Char × List Char}
    (hkey : StringText (key k) member.1) (hvalue : Value k member.2)
    (htext : MemberOf member text) : Covers (record.named progress)
      (progress.1.filter (·.name ≠ key k), put k progress.2) text := by
  obtain ⟨keyText, valueText, hkeyText, hvalueText, rfl⟩ := htext
  obtain ⟨found, hfound⟩ : ∃ found, progress.1.find? (·.name = key k) = some found := by
    obtain ⟨member, hmem, hname⟩ := hleft
    exact Option.isSome_iff_exists.mp (List.find?_isSome.mpr ⟨member, hmem, by simpa using hname⟩)
  obtain ⟨k', hname, hcovers⟩ := h.exists_key (hsub (List.mem_of_find?_eq_some hfound))
  have hkeys : found.name = key k := by simpa using List.find?_some hfound
  obtain rfl : k' = k := h.eq_of_key_eq (hname.symm.trans hkeys)
  have hread : Covers found.change (put k') valueText :=
    hcovers valueText (hvalueText.imp fun _ heq => heq ▸ hvalue)
  refine ensures_key (hkeyText.imp fun _ heq => heq ▸ hkey.quoted False) ?_
  rintro _ blank rfl hblank
  rw [afterKey, hfound]
  exact ensures_colon hblank (hread.map _)

theorem covers_named_other (hsub : progress.1 ⊆ record.members) {name : String} {depth : Nat}
    (hname : ∀ k, key k ≠ name) {member : List Char × List Char} (hkey : StringText name member.1)
    (hvalue : ValueShape depth member.2) (htext : MemberOf member text) :
    Covers (record.named progress) progress text := by
  obtain ⟨keyText, valueText, hkeyText, hvalueText, rfl⟩ := htext
  have hne (member : Member σ) (hmem : member ∈ record.members) : member.name ≠ name := by
    obtain ⟨k, hk, -⟩ := h.exists_key hmem
    exact hk ▸ hname k
  have hfind : progress.1.find? (·.name = name) = none :=
    List.find?_eq_none.mpr fun member hmem => by simpa using hne member (hsub hmem)
  have hany : record.members.any (·.name = name) = false :=
    List.any_eq_false.mpr fun member hmem => by simpa using hne member hmem
  have hread : Covers skip () valueText := covers_skip (hvalueText.imp fun _ heq => heq ▸ hvalue)
  refine ensures_key (hkeyText.imp fun _ heq => heq ▸ hkey.quoted False) ?_
  rintro _ blank rfl hblank
  rw [afterKey, hfind, hany]
  exact ensures_colon hblank (hread.map _)

theorem runs_named {parts : List (Option κ)} {members : List (List Char × List Char)}
    (hparts : List.Forall₂ (PartText key Value) parts members)
    (hdistinct : parts.reduceOption.Nodup) (hsub : progress.1 ⊆ record.members)
    (hleft : ∀ k ∈ parts.reduceOption, ∃ member ∈ progress.1, member.name = key k) :
    Runs False record.named MemberOf (Puts key put parts.reduceOption progress) members
      progress := by
  induction hparts generalizing progress with
  | nil => exact puts_nil key put progress
  | @cons part member parts members hpart _ ih =>
    intro text htext
    cases hpart with
    | other name depth _ hname hkey hvalue =>
      rw [List.reduceOption_cons_of_none] at hdistinct hleft ⊢
      exact (h.covers_named_other hsub hname hkey hvalue htext).ensures (ih hdistinct hsub hleft)
    | known k _ hkey hvalue =>
      rw [List.reduceOption_cons_of_some] at hdistinct hleft ⊢
      rw [List.nodup_cons] at hdistinct
      rw [List.forall_mem_cons] at hleft
      have hrest : Runs False record.named MemberOf
          (Puts key put parts.reduceOption (progress.1.filter (·.name ≠ key k), put k progress.2))
          members (progress.1.filter (·.name ≠ key k), put k progress.2) := by
        refine ih hdistinct.2 (fun member hmem => hsub (List.mem_of_mem_filter hmem)) ?_
        intro k' hk'
        obtain ⟨member, hmem, hname⟩ := hleft.2 k' hk'
        have hne : k' ≠ k := fun heq => hdistinct.1 (heq ▸ hk')
        have hother : member.name ≠ key k := fun heq => hne (h.eq_of_key_eq (hname.symm.trans heq))
        exact ⟨member, List.mem_filter.mpr ⟨hmem, by simpa using hother⟩, hname⟩
      refine (h.covers_named hsub hleft.1 hkey hvalue htext).ensures
        (hrest.imp fun after hputs => ?_)
      refine ⟨fun member hmem => ?_, hputs.made⟩
      obtain ⟨hfilter, hne⟩ := hputs.left member hmem
      rw [List.mem_filter] at hfilter
      exact ⟨hfilter.1, List.forall_mem_cons.mpr ⟨by simpa using hfilter.2, hne⟩⟩

omit h in
theorem runs_inOrder {keys : List κ} {members : List (Member σ)}
    (hmembers : List.Forall₂ (fun k member => member.name = key k ∧
      ∀ text, Padded (Value k) text → Covers member.change (put k) text) keys members)
    (hdistinct : (keys.map key).Nodup) {count : Nat} {items : List (List Char)}
    (hitems : List.Forall₂ Value (keys.take count) items) (s : σ) :
    Runs False inOrder (fun item => Padded (· = item))
      (Puts key put (keys.take count) (members, s)) items (members, s) := by
  induction hmembers generalizing count items s with
  | nil =>
    rw [List.take_nil] at hitems ⊢
    cases hitems
    exact puts_nil key put _
  | @cons k member keys members hmember hmembers ih =>
    cases count with
    | zero =>
      cases hitems
      exact puts_nil key put _
    | succ count =>
      rw [List.take_succ_cons] at hitems ⊢
      rw [List.map_cons, List.nodup_cons] at hdistinct
      obtain ⟨item, items, hitem, hrest, rfl⟩ := List.forall₂_cons_left_iff.mp hitems
      intro text htext
      have hread : Covers member.change (put k) text :=
        hmember.2 text (htext.imp fun _ heq => heq ▸ hitem)
      refine (hread.map _).ensures ((ih hdistinct.2 hrest (put k s)).imp fun after hputs => ?_)
      refine ⟨fun later hmem => ?_, hputs.made⟩
      obtain ⟨hlater, hne⟩ := hputs.left later hmem
      obtain ⟨k', ⟨hname, -⟩, hk'⟩ := Except.exists_of_mem_forall₂ hmembers.flip hlater
      refine ⟨List.mem_cons_of_mem _ hlater, List.forall_mem_cons.mpr ⟨fun heq => ?_, hne⟩⟩
      exact hdistinct.1 (List.mem_map.mpr ⟨k', hk', hname.symm.trans heq⟩)

theorem finish_of_puts {known : List κ} {after : Progress σ}
    (hneeds : record.needsAll → ∀ k, k ∈ known)
    (hputs : Puts key put known (record.members, record.initial) after) :
    record.finish after = some (known.foldl (fun record k => put k record) record.initial) := by
  rw [finish, if_neg, hputs.made]
  rintro ⟨hall, hne⟩
  obtain ⟨member, hmem⟩ := List.exists_mem_of_ne_nil _ hne
  obtain ⟨hbefore, hleft⟩ := hputs.left member hmem
  obtain ⟨k, hname, -⟩ := h.exists_key hbefore
  exact hleft k (hneeds hall k) hname

theorem covers_finish {known : List κ} (hneeds : record.needsAll → ∀ k, k ∈ known)
    (reader : Reader (Progress σ)) (text : List Char)
    (hread : Ensures False reader (Puts key put known (record.members, record.initial)) text) :
    Covers (reader.demand .mismatched record.finish)
      (known.foldl (fun record k => put k record) record.initial) text := by
  refine hread.demand ?_ ?_
  · intro after made hputs hmade
    exact Option.some.inj (hmade.symm.trans (h.finish_of_puts hneeds hputs))
  · intro after hputs hnone
    cases hnone.symm.trans (h.finish_of_puts hneeds hputs)

/-- A record is read to what its text says, with what that does not say as it was. -/
theorem covers_read {known : List κ} (hneeds : record.needsAll → ∀ k, k ∈ known)
    (htext : Padded (SelectionText all key Value known) text) :
    Covers record.read (known.foldl (fun record k => put k record) record.initial) text := by
  obtain ⟨before, inner, after, hbefore, hinner, hafter, rfl⟩ := htext
  cases hinner with
  | object parts members _ hparts hdistinct hobject =>
    refine ensures_read_of_object (h.covers_finish hneeds) (fun member hmem => ?_)
      (h.runs_named hparts hdistinct (List.Subset.refl _) fun k _ => h.exists_member k)
      ⟨before, inner, after, hbefore, hobject, hafter, rfl⟩
    obtain ⟨part, hpart, -⟩ := Except.exists_of_mem_forall₂ hparts.flip hmem
    exact hpart.starts
  | array count items _ hitems harray =>
    refine ensures_read_of_array (h.covers_finish hneeds) (fun item hmem => ?_)
      (runs_inOrder h.members h.distinct hitems record.initial)
      ⟨before, inner, after, hbefore, harray, hafter, rfl⟩
    obtain ⟨k, hvalue, -⟩ := Except.exists_of_mem_forall₂ hitems.flip hmem
    exact h.starts k item hvalue

end Serves

end Record

end IdentityForms.Json
