import IdentityForms.Proofs.Json.Record

/-! A record is refused if it names a member twice, whatever else its text says: each value is read
to its end, if it is read at all, so that every key is found. -/
namespace IdentityForms.Json

variable {α β σ : Type} {text : List Char}

/-- Whether a reader reads whatever has the shape of a value to its end, or fails on it. -/
def Orderly (reader : Reader α) : Prop :=
  ∀ depth text, Padded (ValueShape depth) text → Ensures True reader (fun _ => True) text

theorem Orderly.map {reader : Reader α} (h : Orderly reader) (f : α → β) :
    Orderly (Reader.map f reader) :=
  fun depth text htext => (h depth text htext).map fun _ _ => trivial

theorem orderly_of_cases {reader : Reader α}
    (hscalar : ∀ text, Padded ScalarShape text → Ensures True reader (fun _ => True) text)
    (harray : ∀ depth items text, (∀ item ∈ items, ValueShape depth item) →
      Padded (ArrayOf items) text → Ensures True reader (fun _ => True) text)
    (hobject : ∀ depth members text, MembersShape (ValueShape depth) members →
      Padded (ObjectOf members) text → Ensures True reader (fun _ => True) text) :
    Orderly reader := by
  rintro depth text ⟨before, inner, after, hbefore, hinner, hafter, rfl⟩
  cases depth with
  | zero => exact hscalar _ ⟨before, inner, after, hbefore, hinner, hafter, rfl⟩
  | succ depth =>
    cases hinner with
    | scalar _ h => exact hscalar _ ⟨before, inner, after, hbefore, h, hafter, rfl⟩
    | array items _ hitems h =>
      exact harray depth items _ hitems ⟨before, inner, after, hbefore, h, hafter, rfl⟩
    | object members _ hmembers h =>
      exact hobject depth members _ hmembers ⟨before, inner, after, hbefore, h, hafter, rfl⟩

theorem ensures_demand_any {mayFail : Prop} {wanted : α → Prop} {reader : Reader α}
    (h : Ensures mayFail reader wanted text) (fault : Fault) (pick : α → Option β) :
    Ensures True (reader.demand fault pick) (fun _ => True) text := by
  have hany : Ensures True reader (fun _ => True) text :=
    fun rest hrest => (h rest hrest).imp (fun _ => trivial) fun _ _ => trivial
  exact hany.demand (fun _ _ _ _ => trivial) fun _ _ _ => trivial

theorem ensures_kept_scalar (h : ScalarShape text) :
    Ensures True Assembly.kept.scalar (fun _ => True) text := by
  refine Assembly.ensures_scalar_of_shape (fun _ => trivial) (fun numeral text h => ?_) h
  exact (ensures_demand_any (Assembly.covers_numeral h) _ _).map fun _ _ => trivial

theorem orderly_fitting (pick : Json → Option α) : Orderly (fitting pick) := by
  refine orderly_of_cases (fun text h => ?_) (fun depth items text hitems h => ?_)
    fun depth members text hmembers h => ?_
  · exact ensures_fitting (fun _ => ScalarShape.startsScalar)
      (fun _ hscalar => ensures_demand_any (ensures_kept_scalar hscalar) _ _) h
  · refine .spaced (fun _ => ArrayOf.starts) (fun inner harray => ?_) h
    obtain ⟨tail, rfl⟩ := harray.exists_cons
    exact (refuses_of_result fun rest => ⟨.mismatched, rfl⟩).ensures _
  · refine .spaced (fun _ => ObjectOf.starts) (fun inner hobject => ?_) h
    obtain ⟨tail, rfl⟩ := hobject.exists_cons
    exact (refuses_of_result fun rest => ⟨.mismatched, rfl⟩).ensures _

section

variable {reader : Reader β} {value : List Char}

theorem ensures_close (h : Ensures True reader (fun _ => True) value) (a : α) :
    Ensures True (reader.bind fun _ => Reader.map (fun _ => a) (spaced (exactly '}')))
      (fun _ => True) (value ++ ['}']) := by
  intro rest _
  have hends : Ends ('}' :: rest) := by simp [Ends, endings]
  rw [List.append_assoc, List.singleton_append, Reader.result_bind]
  refine (h _ hends).bind fun _ blank _ hblank => ?_
  rw [Reader.result_map, result_spaced_exactly hblank (by decide)]
  exact .self trivial rest

theorem refuses_comma (h : Ensures True reader (fun _ => True) value) (a : α) (more : List Char) :
    Refuses (reader.bind fun _ => Reader.map (fun _ => a) (spaced (exactly '}')))
      (value ++ ',' :: more) := by
  intro rest _
  have hends : Ends (',' :: (more ++ rest)) := by simp [Ends, endings]
  rw [List.append_assoc, List.cons_append, Reader.result_bind]
  refine (h _ hends).bind fun _ blank _ hblank => ?_
  rw [Reader.result_map, result_spaced, hblank.skipSpace]
  trivial

end

theorem ensures_chosen {name : Reader α}
    (hname : ∀ key, StringShape key → Quoted True name (fun _ => True) key) {depth : Nat}
    {members : List (List Char × List Char)}
    (hmembers : MembersShape (ValueShape depth) members) (h : ObjectOf members ('{' :: text)) :
    Ensures True ((spaced (exactly '"')).bind fun _ => name.bind fun a =>
      (spaced (exactly ':')).bind fun _ => (fitting null?).bind fun _ =>
        Reader.map (fun _ => a) (spaced (exactly '}'))) (fun _ => True) text := by
  obtain ⟨texts, htexts, hbracketed⟩ := h
  obtain ⟨hkeys, hvalues⟩ := hmembers
  cases hbracketed with
  | empty blank hblank =>
    refine (refuses_of_result fun rest => ⟨.malformed, ?_⟩).ensures _
    rw [Reader.result_bind, result_spaced, List.append_assoc, hblank.skipSpace]
    rfl
  | parts _ hne =>
    cases htexts with
    | nil => exact absurd rfl hne
    | @cons member _ members texts hmember _ =>
      obtain ⟨key, value, hkey, hvalue, rfl⟩ := hmember
      rw [List.forall_mem_cons] at hkeys hvalues
      have hquoted := hkey.imp fun _ heq => heq ▸ hname member.1 hkeys.1
      have hnull : Ensures True (fitting null?) (fun _ => True) value :=
        orderly_fitting null? depth value (hvalue.imp fun _ heq => heq ▸ hvalues.1)
      cases texts with
      | nil =>
        rw [List.intercalate_singleton, List.append_assoc, List.cons_append]
        exact ensures_key hquoted fun a _ _ hblank => ensures_colon hblank (ensures_close hnull a)
      | cons second texts =>
        rw [List.intercalate_cons_cons, List.append_assoc, List.append_assoc, List.append_assoc,
          List.cons_append]
        exact ensures_key hquoted fun a _ _ hblank =>
          ensures_colon hblank ((refuses_comma hnull a _).ensures _)

theorem orderly_choice (ofName? : String → Option α) : Orderly (choice ofName?) := by
  have hname (key : List Char) (hkey : StringShape key) :
      Quoted True ((quoted .full).demand .mismatched ofName?) (fun _ => True) key := by
    have hquoted : Quoted True (quoted .full) (fun _ => True) key := hkey.quoted fun _ => trivial
    obtain ⟨inner, rfl, hinner⟩ := hquoted
    exact ⟨inner, rfl, hinner.demand trivial _ _⟩
  refine orderly_of_cases (fun text h => ?_) (fun depth items text hitems h => ?_)
    fun depth members text hmembers h => ?_
  · refine .spaced (fun _ hshape => hshape.startsScalar.starts) (fun inner hshape => ?_) h
    cases hshape with
    | null => exact (refuses_of_result fun rest => ⟨.malformed, rfl⟩).ensures _
    | true => exact (refuses_of_result fun rest => ⟨.malformed, rfl⟩).ensures _
    | false => exact (refuses_of_result fun rest => ⟨.malformed, rfl⟩).ensures _
    | number numeral _ h =>
      obtain ⟨c, tail, rfl, hc⟩ := h.exists_cons
      refine (refuses_of_result fun rest => ⟨.malformed, ?_⟩).ensures _
      generalize hwhole : c :: tail ++ rest = whole
      unfold Reader.result
      dsimp only
      split
      · cases hwhole
      · cases hwhole
        simp at hc
      · cases hwhole
        simp at hc
      · rfl
    | string _ h =>
      obtain ⟨tail, rfl, hquoted⟩ := hname inner h
      exact hquoted.ensures.of_result_eq fun rest => Reader.map_pair_past _ _ _
  · refine .spaced (fun _ => ArrayOf.starts) (fun inner harray => ?_) h
    obtain ⟨tail, rfl⟩ := harray.exists_cons
    exact (refuses_of_result fun rest => ⟨.malformed, rfl⟩).ensures _
  · refine .spaced (fun _ => ObjectOf.starts) (fun inner hobject => ?_) h
    obtain ⟨tail, rfl⟩ := hobject.exists_cons
    exact (ensures_chosen hname hmembers hobject).of_result_eq fun rest =>
      Reader.map_pair_past _ _ _

/-- Whether a text is that of a record that names one of its members twice, or in which a member has
a value that is bad for it. -/
inductive Repeats (names : List String) (Bad : String → List Char → Prop) : List Char → Prop where
  | twice (depth : Nat) (members : List (List Char × List Char)) (text : List Char) (name : String)
      (first second : List Char × List Char) (hmembers : MembersShape (ValueShape depth) members)
      (h : ObjectOf members text) (hname : name ∈ names) (htwice : [first, second].Sublist members)
      (hfirst : StringText name first.1) (hsecond : StringText name second.1) :
      Repeats names Bad text
  | member (depth : Nat) (members : List (List Char × List Char)) (text : List Char) (name : String)
      (member : List Char × List Char) (hmembers : MembersShape (ValueShape depth) members)
      (h : ObjectOf members text) (hname : name ∈ names) (hmember : member ∈ members)
      (hkey : StringText name member.1) (hbad : Bad name member.2) : Repeats names Bad text
  | item (depth : Nat) (items : List (List Char)) (text : List Char) (name : String)
      (item : List Char) (index : Nat) (hitems : ∀ item ∈ items, ValueShape depth item)
      (h : ArrayOf items text) (hname : names[index]? = some name)
      (hitem : items[index]? = some item) (hbad : Bad name item) : Repeats names Bad text

namespace Record

variable {record : Record σ}

section

variable {progress : Progress σ} {name : String} {member : List Char × List Char} {depth : Nat}

theorem ensures_afterKey (horderly : ∀ member ∈ progress.1, Orderly member.change)
    {blank value : List Char} (hblank : Blank blank) (hvalue : Padded (ValueShape depth) value)
    (name : String) : Ensures True (record.afterKey progress name)
      (fun next => next.1 ⊆ progress.1 ∧ ∀ member ∈ next.1, member.name ≠ name)
      (blank ++ ':' :: value) := by
  unfold afterKey
  split
  · next found hfound =>
    have hread := horderly found (List.mem_of_find?_eq_some hfound) depth value hvalue
    refine ensures_colon hblank (hread.map fun _ _ => ⟨?_, ?_⟩)
    · exact fun _ => List.mem_of_mem_filter
    · exact fun member hmem => by simpa using (List.mem_filter.mp hmem).2
  · next hnone =>
    split
    · exact (refuses_of_result fun rest => ⟨.mismatched, rfl⟩).ensures _
    · refine ensures_colon hblank (((covers_skip hvalue).map _).ensures ⟨List.Subset.refl _, ?_⟩)
      exact fun member hmem => by simpa using List.find?_eq_none.mp hnone member hmem

theorem ensures_named {names : String → Prop}
    (horderly : ∀ member ∈ progress.1, Orderly member.change)
    (hkey : Quoted True (quoted .full) names member.1) (hvalue : ValueShape depth member.2)
    (htext : MemberOf member text) : Ensures True (record.named progress)
      (fun next => next.1 ⊆ progress.1 ∧
        ∃ name, names name ∧ ∀ member ∈ next.1, member.name ≠ name) text := by
  obtain ⟨key, value, hkeyText, hvalueText, rfl⟩ := htext
  refine ensures_key (hkeyText.imp fun _ heq => heq ▸ hkey) fun name blank hname hblank => ?_
  refine (ensures_afterKey horderly hblank (hvalueText.imp fun _ heq => heq ▸ hvalue) name).imp ?_
  exact fun _ hnext => ⟨hnext.1, name, hname, hnext.2⟩

/-- A key whose member is not to come any more, or whose value is bad, is refused. -/
theorem refuses_named (hname : name ∈ record.members.map (·.name))
    (hkey : StringText name member.1)
    (hbad : ∀ found ∈ progress.1, found.name = name → ∀ value, Padded (· = member.2) value →
      Refuses found.change value)
    (htext : MemberOf member text) : Refuses (record.named progress) text := by
  obtain ⟨key, value, hkeyText, hvalueText, rfl⟩ := htext
  refine ensures_key (hkeyText.imp fun _ heq => heq ▸ hkey.quoted True) ?_
  intro read blank hread hblank
  rw [hread]
  unfold afterKey
  split
  · next found hfound =>
    have hfoundName : found.name = name := by simpa using List.find?_some hfound
    have hread := hbad found (List.mem_of_find?_eq_some hfound) hfoundName value hvalueText
    exact ensures_colon hblank (Ensures.map hread fun _ => False.elim)
  · obtain ⟨known, hknown, hknownName⟩ := List.mem_map.mp hname
    have hany : record.members.any (·.name = name) = true :=
      List.any_eq_true.mpr ⟨known, hknown, by simpa using hknownName⟩
    rw [if_pos hany]
    exact refuses_of_result fun rest => ⟨.mismatched, rfl⟩

end

section

variable (horderly : ∀ member ∈ record.members, Orderly member.change) {depth : Nat} {name : String}
  (initial : σ)
include horderly

section

variable {members : List (List Char × List Char)}
  (h : MembersShape (ValueShape depth) members)
include h

/-- A member preserves whatever is inherited from the members still to come by fewer of them. -/
theorem preserves_named (wanted : List (Member σ) → Prop)
    (hsub : ∀ left, wanted left → left ⊆ record.members)
    (hinherit : ∀ left left', left' ⊆ left → wanted left → wanted left') :
    ∀ member ∈ members, ∀ progress : Progress σ, wanted progress.1 → ∀ text, MemberOf member text →
      Ensures True (record.named progress) (fun next => wanted next.1) text := by
  intro member hmem progress hwanted text htext
  have hquoted : Quoted True (quoted .full) (fun _ => True) member.1 :=
    (h.keys member hmem).quoted fun _ => trivial
  refine (ensures_named (fun found hfound => horderly found (hsub _ hwanted hfound)) hquoted
    (h.values member hmem) htext).imp ?_
  exact fun next hnext => hinherit _ _ hnext.1 hwanted

theorem preserves_named_known :
    ∀ member ∈ members, ∀ progress : Progress σ, progress.1 ⊆ record.members → ∀ text,
      MemberOf member text →
        Ensures True (record.named progress) (fun next => next.1 ⊆ record.members) text :=
  preserves_named horderly h (· ⊆ record.members) (fun _ => id) fun _ _ => List.Subset.trans

/-- The first of two members with one key leaves none to come for the second. -/
theorem runs_named_twice {first second : List Char × List Char}
    (hname : name ∈ record.members.map (·.name)) (htwice : [first, second].Sublist members)
    (hfirst : StringText name first.1) (hsecond : StringText name second.1) :
    Runs True record.named MemberOf (fun _ => False) members (record.members, initial) := by
  have hgone := preserves_named horderly h (fun left => left ⊆ record.members ∧
      ∀ member ∈ left, member.name ≠ name) (fun _ hwanted => hwanted.1)
    fun _ _ hsub hwanted => ⟨List.Subset.trans hsub hwanted.1,
      fun found hfound => hwanted.2 found (hsub hfound)⟩
  have hknown := preserves_named_known horderly h
  obtain ⟨front, back, rfl, hfront, hback⟩ := List.cons_sublist_iff.mp htwice
  rw [List.forall_mem_append] at hgone hknown
  have hfrontRuns := runs_of_mem _ hfront hknown.1 (fun progress hsub text htext => ?_) hgone.1
    (List.Subset.refl _ : (record.members, initial).1 ⊆ record.members)
  · refine runs_append.mpr (hfrontRuns.imp fun progress hprogress => ?_)
    refine runs_of_mem _ (List.singleton_sublist.mp hback) hgone.2 ?_ (fun _ _ _ => False.elim)
      hprogress
    rintro progress ⟨-, hne⟩ text htext
    exact refuses_named hname hsecond (fun found hfound heq => absurd heq (hne found hfound)) htext
  · refine (ensures_named (fun found hfound => horderly found (hsub hfound))
      (hfirst.quoted True) (h.values first (List.mem_append_left back hfront)) htext).imp ?_
    rintro next ⟨hnext, _, rfl, hne⟩
    exact ⟨List.Subset.trans hnext hsub, hne⟩

theorem runs_named_bad {member : List Char × List Char}
    (hname : name ∈ record.members.map (·.name)) (hmem : member ∈ members)
    (hkey : StringText name member.1)
    (hbad : ∀ found ∈ record.members, found.name = name → ∀ value, Padded (· = member.2) value →
      Refuses found.change value) :
    Runs True record.named MemberOf (fun _ => False) members (record.members, initial) := by
  refine runs_of_mem _ hmem (preserves_named_known horderly h) ?_ (fun _ _ _ => False.elim)
    (List.Subset.refl _)
  intro progress hsub text htext
  exact refuses_named hname hkey (fun found hfound => hbad found (hsub hfound)) htext

end

end

theorem runs_inOrder_bad {members : List (Member σ)}
    (horderly : ∀ member ∈ members, Orderly member.change) {depth : Nat} {items : List (List Char)}
    (hitems : ∀ item ∈ items, ValueShape depth item) {index : Nat} {found : Member σ}
    {item : List Char} (hfound : members[index]? = some found) (hitem : items[index]? = some item)
    (hbad : ∀ value, Padded (· = item) value → Refuses found.change value) (s : σ) :
    Runs True inOrder (fun item => Padded (· = item)) (fun _ => False) items (members, s) := by
  induction items generalizing members index s with
  | nil => cases hitem
  | cons first items ih =>
    cases members with
    | nil => cases hfound
    | cons member members =>
      rw [List.forall_mem_cons] at horderly hitems
      intro text htext
      cases index with
      | zero =>
        cases hfound
        cases hitem
        exact Ensures.map (hbad text htext) fun _ => False.elim
      | succ index =>
        have hread := horderly.1 depth text (htext.imp fun _ heq => heq ▸ hitems.1)
        exact hread.map fun change _ => ih horderly.2 hitems.2 hfound hitem (change s)

section

variable (horderly : ∀ member ∈ record.members, Orderly member.change)
include horderly

theorem orderly_read : Orderly record.read := by
  refine orderly_of_cases (fun text h => ?_) (fun depth items text hitems h => ?_)
    fun depth members text hmembers h => ?_
  · refine .spaced (fun _ hshape => hshape.startsScalar.starts) (fun inner hshape => ?_) h
    have hread := orderly_fitting (fun _ => (none : Option σ)) 0 inner (padded_self hshape)
    refine hread.of_result_eq fun rest => ?_
    obtain ⟨c, tail, rfl, hc⟩ := hshape.startsScalar
    simp only [List.mem_cons, not_or] at hc
    generalize hwhole : c :: tail ++ rest = whole
    unfold Reader.result
    congr 1
    dsimp only
    split
    · exact absurd (List.cons.inj hwhole).1 hc.2.1
    · exact absurd (List.cons.inj hwhole).1 hc.1
    · rfl
  · have hruns : Runs True inOrder (fun item => Padded (· = item))
        (fun progress => ∀ member ∈ progress.1, Orderly member.change) items
        (record.members, record.initial) := by
      refine runs_of_preserves ?_ horderly
      rintro item hmem ⟨left, made⟩ hleft text htext
      cases left with
      | nil => exact (refuses_of_result fun rest => ⟨.malformed, rfl⟩).ensures _
      | cons member left =>
        rw [List.forall_mem_cons] at hleft
        have hread := hleft.1 depth text (htext.imp fun _ heq => heq ▸ hitems item hmem)
        exact hread.map fun _ _ => hleft.2
    exact ensures_read_of_array (fun _ _ hread => ensures_demand_any hread _ _)
      (fun item hmem => (hitems item hmem).starts) hruns h
  · exact ensures_read_of_object (fun _ _ hread => ensures_demand_any hread _ _)
      (fun member hmem => (hmembers.keys member hmem).starts)
      (runs_of_preserves (preserves_named_known horderly hmembers) (List.Subset.refl _)) h

/-- A record is refused if it repeats a key, and if a value is refused. -/
theorem refuses_read {Bad : String → List Char → Prop}
    (hbad : ∀ member ∈ record.members, ∀ text, Padded (Bad member.name) text →
      Refuses member.change text)
    (h : Padded (Repeats (record.members.map (·.name)) Bad) text) : Refuses record.read text := by
  have hfinish (reader : Reader (Progress σ)) (text : List Char) (hread : Refuses reader text) :
      Refuses (reader.demand .mismatched record.finish) text :=
    Ensures.demand hread (fun _ _ hfalse _ => hfalse) fun _ _ _ => trivial
  have hvalue {name : String} {value : List Char} (hvalue : Bad name value) :
      ∀ found ∈ record.members, found.name = name → ∀ text, Padded (· = value) text →
        Refuses found.change text := by
    rintro found hfound rfl text htext
    exact hbad found hfound text (htext.imp fun _ heq => heq ▸ hvalue)
  obtain ⟨before, inner, after, hbefore, hinner, hafter, rfl⟩ := h
  cases hinner with
  | twice depth members _ name first second hmembers h hname htwice hfirst hsecond =>
    exact ensures_read_of_object hfinish (fun member hmem => (hmembers.keys member hmem).starts)
      (runs_named_twice horderly record.initial hmembers hname htwice hfirst hsecond)
      ⟨before, inner, after, hbefore, h, hafter, rfl⟩
  | member depth members _ name member hmembers h hname hmem hkey hbadValue =>
    exact ensures_read_of_object hfinish (fun member hmem => (hmembers.keys member hmem).starts)
      (runs_named_bad horderly record.initial hmembers hname hmem hkey (hvalue hbadValue))
      ⟨before, inner, after, hbefore, h, hafter, rfl⟩
  | item depth items _ name item index hitems h hname hitem hbadValue =>
    rw [List.getElem?_map] at hname
    obtain ⟨found, hfound, rfl⟩ := Option.map_eq_some_iff.mp hname
    exact ensures_read_of_array hfinish (fun item hmem => (hitems item hmem).starts)
      (runs_inOrder_bad horderly hitems hfound hitem
        (hvalue hbadValue found (List.mem_of_getElem? hfound) rfl) record.initial)
      ⟨before, inner, after, hbefore, h, hafter, rfl⟩

end

end Record

end IdentityForms.Json
