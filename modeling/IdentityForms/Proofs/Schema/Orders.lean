import IdentityForms.Proofs.Form.Arrangement
import IdentityForms.Proofs.Json.Soundness
import IdentityForms.Proofs.Json.Written
import IdentityForms.Proofs.Schema.Distinct
import IdentityForms.Proofs.Schema.Legible
import IdentityForms.Proofs.Schema.NumberOrder

/-! Orders that are written as whole numbers. A field has the order that its entry gives, and a form
shows the fields in the order of the numbers that are written, as far as these are kept. -/
namespace IdentityForms

namespace Schema

open Json (Written)

variable {policy : Policy} {written : Written} {json : Json} {schema : Schema}

/-- Whether an entry writes its order as a whole number. A negative exponent has to be counted in
32 bits, or else nothing but zero is left. -/
structure Writes (entry : Written) (numeral : Json.Numeral) (n : Int) : Prop where
  order : entry.member? "order" = some (.number numeral)
  value : numeral.value = n
  exponent : n = 0 ∨ -2 ^ 31 < numeral.exponent.getD 0

/-- Whether a field has the label of an entry, and what order the entry gives as a whole number. -/
structure Follows (entry : Written) (field : Field) : Prop where
  label : entry.member? "label" = some (.string field.label)
  order : ∀ numeral n, Writes entry numeral n → numeral.Gives n (field.order.map Int64.toInt)

theorem follows_of_describes {entry : Entry} {field : Field}
    (hdenotes : written.Denotes (.object entry)) (h : entry.Describes field) :
    Follows written field where
  label := by
    have hlabel := hdenotes.lookup "label"
    rw [h.label] at hlabel
    generalize written.member? "label" = found at hlabel
    cases hlabel with
    | some hfound =>
      cases hfound
      rfl
  order := by
    intro numeral n hwrites
    obtain ⟨_, hlookup, hnumber⟩ := Entries.exists_of_rel (hdenotes.lookup "order") hwrites.order
    cases hnumber with
    | number _ number hdecimal hnumber =>
      have hfield : field.order = number.order? := by
        apply Option.ext
        intro order
        rw [h.order, ← Entry.orderOf_eq_some, Field.orderOf, hlookup]
      rw [hfield]
      exact Json.Numeral.gives_order hdecimal hwrites.value hwrites.exponent hnumber

theorem Category.forall₂_follows {items : List Written} {category : Category}
    (hdenotes : (Written.array items).Denotes json) (h : Describes json category) :
    List.Forall₂ Follows items category.fields := by
  obtain ⟨entries, rfl, hentries⟩ := h
  cases hdenotes with
  | array _ _ hitems =>
    rw [List.forall₂_map_right_iff] at hitems
    generalize category.fields = fields at hentries
    induction hitems generalizing fields with
    | nil =>
      cases hentries
      exact .nil
    | cons hitem _ ih =>
      cases hentries with
      | cons hentry hentries => exact .cons (follows_of_describes hitem hentry) (ih _ hentries)

theorem Provider.exists_category {provider : Provider} (hdenotes : written.Denotes json)
    (h : Describes json provider) {name : String} {member : Written}
    (hmember : written.member? name = some member) : ∃ category json, member.Denotes json ∧
      provider.category? name = some category ∧ Category.Describes json category := by
  obtain ⟨members, rfl, hmembers⟩ := h
  obtain ⟨json, hlookup, hjson⟩ := Entries.exists_of_rel (hdenotes.lookup name) hmember
  have hcategories : List.Forall₂ (fun member entry => member.1 = entry.1 ∧
      Category.Describes member.2 entry.2) members
      (provider.categories.map fun category => (category.name, category)) := by
    rw [List.forall₂_map_right_iff]
    exact hmembers.imp fun _ _ h => ⟨h.1.symm, h.2⟩
  obtain ⟨category, hcategory, hdescribes⟩ :=
    Entries.exists_of_rel (Entries.rel_lookup hcategories name) hlookup
  rw [Entries.lookup_map_key, Option.map_id'] at hcategory
  exact ⟨category, json, hjson, hcategory, hdescribes⟩

theorem exists_provider (hdenotes : written.Denotes json) (h : Describes json schema)
    {owner : String} {member : Written} (hmember : written.member? owner = some member) :
    ∃ provider json, member.Denotes json ∧ schema.provider? owner = some provider ∧
      Provider.Describes json provider := by
  obtain ⟨members, rfl, hmembers⟩ := h
  obtain ⟨json, hlookup, hjson⟩ := Entries.exists_of_rel (hdenotes.lookup owner) hmember
  have hproviders : List.Forall₂ (fun member entry => member.1 = entry.1 ∧
      Provider.Describes member.2 entry.2) members schema.providers :=
    hmembers.imp fun _ _ h => ⟨h.1.symm, h.2⟩
  obtain ⟨provider, hprovider, hdescribes⟩ :=
    Entries.exists_of_rel (Entries.rel_lookup hproviders owner) hlookup
  exact ⟨provider, json, hjson, hprovider, hdescribes⟩

/-- Whether some entry of a label writes a whole number as its order. -/
def Numbered (entries : List Written) (label : String) (numeral : Json.Numeral) (n : Int) : Prop :=
  ∃ entry ∈ entries, entry.member? "label" = some (.string label) ∧ Writes entry numeral n

/-- Two orders that are written come in turn: they are out of it by two at most, and not at all if
their numerals are faithful. -/
structure Ascend (before after : Json.Numeral) (m n : Int) : Prop where
  near : m ≤ n + 2
  exact : before.IsFaithful m → after.IsFaithful n → m ≤ n

section

variable {entries : List Written} {category : Category}
  (hfollows : List.Forall₂ Follows entries category.fields)
  (hlabels : (category.fields.map (·.label)).Nodup)
include hfollows hlabels

theorem gives_rank_of_numbered {field : Field} {numeral : Json.Numeral} {n : Int}
    (hfield : field ∈ category.fields) (hordered : field.order ≠ none)
    (h : Numbered entries field.label numeral n) : numeral.Gives n (some field.rank.toInt) := by
  obtain ⟨entry, hentry, hlabel, hwrites⟩ := h
  obtain ⟨other, hother, hmem⟩ := Except.exists_of_mem_forall₂ hfollows hentry
  have hsame : other.label = field.label :=
    Written.string.inj (Option.some.inj (hother.label.symm.trans hlabel))
  obtain rfl : other = field := List.inj_on_of_nodup_map hlabels hmem hfield hsame
  obtain ⟨order, horder⟩ := Option.ne_none_iff_exists'.mp hordered
  have hgives := hother.order numeral n hwrites
  rw [horder, Option.map_some] at hgives
  rwa [Field.rank, horder, Option.getD_some]

/-- The fields stand in the order of the numbers in their entries. -/
theorem pairwise_arranged (hordered : Field.AllOrdered category.fields) :
    category.arranged.Pairwise fun before after => ∀ numeral m numeral' n,
      Numbered entries before.label numeral m → Numbered entries after.label numeral' n →
        Ascend numeral numeral' m n := by
  have harranges := Category.arranges_arranged hordered
  have hmem {field : Field} (h : field ∈ category.arranged) : field ∈ category.fields :=
    harranges.perm.mem_iff.mp h
  have harranged : Field.AllOrdered category.arranged := fun field h => hordered field (hmem h)
  refine (harranged.ascending_iff.mp harranges.ascending).imp_of_mem ?_
  intro before after hbefore hafter hle numeral m numeral' n hm hn
  have hle : before.rank.toInt ≤ after.rank.toInt := Int64.le_iff_toInt_le.mp hle
  have hm := gives_rank_of_numbered hfollows hlabels (hmem hbefore) (harranged _ hbefore) hm
  have hn := gives_rank_of_numbered hfollows hlabels (hmem hafter) (harranged _ hafter) hn
  constructor
  case near =>
    have := hm.natAbs_sub_le
    have := hn.natAbs_sub_le
    omega
  case exact =>
    intro hbefore hafter
    rw [← hm.eq_of_isFaithful hbefore, ← hn.eq_of_isFaithful hafter]
    exact hle

end

theorem Provider.group?_layOut {provider : Provider} {name : String} {category : Category}
    (h : provider.category? name = some category) (selector : String) :
    (provider.layOut selector).form.group? name = some category.toForm := by
  unfold layOut Form.group?
  rw [List.find?_map]
  exact congrArg (Option.map Category.toForm) h

/-- Where a document writes an order as a whole number, the field has what order the numeral gives,
and the fields of a category that all have an order are shown in the order of the numbers as they
are written. A number that is held as a double may be missed by one, so that two fields may stand
out of that order by two. -/
theorem orders_follow_numerals {text : String} (h : ofText policy text = .ok schema) :
    (∃ written, Json.Padded (Written.Text Json.maxDepth written) text.toList) ∧
    ∀ written, Json.Padded (Written.Text Json.maxDepth written) text.toList →
    ∀ owner name entries,
      (written.member? owner).bind (·.member? name) = some (.array entries) →
      ∃ provider category, schema.provider? owner = some provider ∧
        provider.category? name = some category ∧
        List.Forall₂ Follows entries category.fields ∧
        (Field.AllOrdered category.fields → ∀ selector, ∃ group,
          (provider.layOut selector).form.group? name = some group ∧
          group.labels.Perm (category.fields.map (·.label)) ∧
          group.fields.Pairwise fun before after => ∀ numeral m numeral' n,
            Numbered entries before.label numeral m → Numbered entries after.label numeral' n →
              Ascend numeral numeral' m n) := by
  obtain ⟨json, hjson, hschema⟩ := Except.do_eq_ok.mp h
  rw [Except.mapError_eq_ok, Json.ofText_eq_ok_iff] at hjson
  constructor
  · obtain ⟨written, -, hwritten⟩ := Written.exists_padded hjson fun _ => Written.exists_written
    exact ⟨written, hwritten⟩
  intro written hwritten owner name entries hentries
  obtain ⟨json', hdenotes, hjson'⟩ :=
    Written.exists_padded hwritten fun _ => Written.Text.exists_denotes
  -- The text is read to one value only, whichever document it is taken for.
  obtain rfl : json = json' :=
    Except.ok.inj ((Json.ofText_of_padded hjson).symm.trans (Json.ofText_of_padded hjson'))
  obtain ⟨member, howner, hname⟩ := Option.bind_eq_some_iff.mp hentries
  obtain ⟨provider, json₁, hdenotes₁, hprovider, hdescribes₁⟩ :=
    exists_provider hdenotes (ofJson_iff.mp hschema).2 howner
  obtain ⟨category, json₂, hdenotes₂, hcategory, hdescribes₂⟩ :=
    Provider.exists_category hdenotes₁ hdescribes₁ hname
  have hfollows := Category.forall₂_follows hdenotes₂ hdescribes₂
  have hlabels : (category.fields.map (·.label)).Nodup :=
    (distinct_of_ofText h hprovider).labels category (List.mem_of_find?_eq_some hcategory)
  refine ⟨provider, category, hprovider, hcategory, hfollows, fun hordered selector =>
    ⟨category.toForm, Provider.group?_layOut hcategory selector, ?_, ?_⟩⟩
  · have hperm := category.arranged_perm.map (·.label)
    rwa [Form.Group.labels, Category.toForm, List.map_map]
  · rw [Category.toForm, List.pairwise_map]
    exact pairwise_arranged hfollows hlabels hordered

def numbered (label : String) (numeral : Json.Numeral) : Written :=
  .object [("label", .string label), ("order", .number numeral)]

def paired (first second : Json.Numeral) : Written :=
  .object [("A", .object [("P", .array [numbered "N" first, numbered "M" second])])]

def pairedText (first second : List Char) : List Char :=
  "\x7b\"A\":\x7b\"P\":[\x7b\"label\":\"N\",\"order\":".toList ++ (first ++
    ("\x7d,\x7b\"label\":\"M\",\"order\":".toList ++ (second ++ "\x7d]\x7d\x7d".toList)))

theorem text_paired {first second : Json.Numeral} {firstText secondText : List Char}
    (hfirst : Json.NumeralText first firstText) (hsecond : Json.NumeralText second secondText)
    (hfirstNumber : first.toNumber?.isSome) (hsecondNumber : second.toNumber?.isSome) :
    Json.Padded (Written.Text Json.maxDepth (paired first second))
      (pairedText firstText secondText) := by
  have hentry {label : String} {numeral : Json.Numeral} {literal : List Char}
      (hlabel : label.toList.all Json.isPlain) (hnumeral : Json.NumeralText numeral literal)
      (hnumber : numeral.toNumber?.isSome) : Written.Text 124 (numbered label numeral) _ :=
    .object _ _ _ (.cons (Written.memberText_of_plain (by decide) (Written.ScalarText.text
        (.string label _ (Json.stringText_of_plain hlabel)) 123))
      (.cons (Written.memberText_of_plain (by decide) (Written.ScalarText.text
        (.number numeral _ literal hnumeral (Option.some_get hnumber).symm) 123)) .nil))
      (.parts _ (List.cons_ne_nil _ _))
  have hcategory : Written.Text 125 (.array [numbered "N" first, numbered "M" second]) _ :=
    .array _ _ _ (.cons (Json.padded_self (hentry (by decide) hfirst hfirstNumber))
      (.cons (Json.padded_self (hentry (by decide) hsecond hsecondNumber)) .nil))
      (.parts _ (List.cons_ne_nil _ _))
  have hprovider : Written.Text 126
      (.object [("P", .array [numbered "N" first, numbered "M" second])]) _ :=
    .object _ _ _ (.cons (Written.memberText_of_plain (by decide) hcategory) .nil)
      (.parts _ (List.cons_ne_nil _ _))
  have hpaired : Written.Text Json.maxDepth (paired first second) _ :=
    Written.NestedText.object _ _ _ (.cons (Written.memberText_of_plain (by decide) hprovider) .nil)
      (.parts _ (List.cons_ne_nil _ _))
  convert Json.padded_self hpaired using 1
  unfold pairedText
  simp [List.intercalate]

theorem digitsText_cons {c : Char} {digits : List Char}
    (h : (c :: digits).all Char.isDigit = true) : Json.DigitsText (c :: digits) :=
  ⟨List.cons_ne_nil c digits, List.all_eq_true.mp h⟩

def fifteen : Json.Numeral := ⟨false, ['1'], ['5', '0'], some 1⟩

theorem numeralText_fifteen : Json.NumeralText fifteen ['1', '.', '5', '0', 'e', '1'] :=
  .unsigned _ rfl ⟨digitsText_cons rfl, by decide, ['.', '5', '0'], ['e', '1'],
    .present _ (digitsText_cons rfl), .unsigned 'e' ['1'] (.inl rfl) (digitsText_cons rfl), rfl⟩

theorem writes_fifteen (label : String) : Writes (numbered label fifteen) fifteen 15 where
  order := rfl
  value := by
    have hwhole : Nat.ofDigitChars 10 ['1'] 0 = 1 := rfl
    have hfraction : Nat.ofDigitChars 10 ['5', '0'] 0 = 50 := rfl
    simp only [Json.Numeral.value, fifteen, hwhole, hfraction]
    norm_num
  exponent := .inr (by decide)

def minusZero : Json.Numeral := ⟨true, ['0'], [], none⟩

theorem numeralText_minusZero : Json.NumeralText minusZero ['-', '0'] :=
  .minus _ rfl ⟨digitsText_cons rfl, by decide, [], [], .absent, .absent, rfl⟩

theorem writes_minusZero (label : String) : Writes (numbered label minusZero) minusZero 0 where
  order := rfl
  value := by
    have hwhole : Nat.ofDigitChars 10 ['0'] 0 = 0 := rfl
    simp [Json.Numeral.value, minusZero, hwhole]
  exponent := .inl rfl

def mixedText : String :=
  "\x7b\"A\":\x7b\"P\":[\x7b\"label\":\"N\",\"order\":1.50e1\x7d," ++
    "\x7b\"label\":\"M\",\"order\":-0\x7d]\x7d\x7d"

theorem text_mixed :
    Json.Padded (Written.Text Json.maxDepth (paired fifteen minusZero)) mixedText.toList := by
  have htext : mixedText.toList = pairedText ['1', '.', '5', '0', 'e', '1'] ['-', '0'] := by
    decide +kernel
  rw [htext]
  exact text_paired numeralText_fifteen numeralText_minusZero (by decide +kernel)
    (by decide +kernel)

def mixedSchema : Schema :=
  ⟨[("A", ⟨[⟨"P", [⟨"N", some 15, false, none⟩, ⟨"M", some 0, false, none⟩]⟩]⟩)]⟩

theorem ofText_mixed : ofText .strict mixedText = .ok mixedSchema := by decide +kernel

theorem orders_follow_numerals_mixed :
    ofText .strict mixedText = .ok mixedSchema ∧
    Json.Padded (Written.Text Json.maxDepth (paired fifteen minusZero)) mixedText.toList ∧
    Writes (numbered "N" fifteen) fifteen 15 ∧ Writes (numbered "M" minusZero) minusZero 0 ∧
    ∃ provider category group, mixedSchema.provider? "A" = some provider ∧
      provider.category? "P" = some category ∧
      List.Forall₂ Follows [numbered "N" fifteen, numbered "M" minusZero] category.fields ∧
      (provider.layOut "A").form.group? "P" = some group ∧ group.labels.Perm ["N", "M"] ∧
      group.fields.Pairwise fun before after => ∀ numeral m numeral' n,
        Numbered [numbered "N" fifteen, numbered "M" minusZero] before.label numeral m →
        Numbered [numbered "N" fifteen, numbered "M" minusZero] after.label numeral' n →
          Ascend numeral numeral' m n := by
  obtain ⟨provider, category, hprovider, hcategory, hfollows, hshown⟩ :=
    (orders_follow_numerals ofText_mixed).2 (paired fifteen minusZero) text_mixed "A" "P" _ rfl
  obtain rfl := Option.some.inj hprovider
  obtain rfl := Option.some.inj hcategory
  obtain ⟨group, hgroup, hperm, hascending⟩ := hshown (by simp [Field.AllOrdered]) "A"
  exact ⟨ofText_mixed, text_mixed, writes_fifteen "N", writes_minusZero "M", _, _, group, rfl, rfl,
    hfollows, hgroup, hperm, hascending⟩

/-- A number that is written with a point, as in `7.0`. -/
def pointed (n : Nat) : Json.Numeral := ⟨false, Nat.toDigits 10 n, ['0'], none⟩

theorem numeralText_pointed (n : Nat) :
    Json.NumeralText (pointed n) (Nat.toDigits 10 n ++ ['.', '0']) :=
  .unsigned _ rfl ⟨Json.digitsText_toDigits n, Json.toDigits_of_head?, ['.', '0'], [],
    .present ['0'] (digitsText_cons rfl), .absent, rfl⟩

theorem writes_pointed (label : String) (n : Nat) :
    Writes (numbered label (pointed n)) (pointed n) n where
  order := rfl
  value := by
    have hfraction : Nat.ofDigitChars 10 ['0'] 0 = 0 := rfl
    simp [Json.Numeral.value, pointed, hfraction]
  exponent := .inr (by simp [pointed])

def adjacentText : String :=
  "\x7b\"A\":\x7b\"P\":[\x7b\"label\":\"N\",\"order\":7777777777777778.0\x7d," ++
    "\x7b\"label\":\"M\",\"order\":7777777777777777.0\x7d]\x7d\x7d"

theorem text_adjacent : Json.Padded
    (Written.Text Json.maxDepth (paired (pointed 7777777777777778) (pointed 7777777777777777)))
      adjacentText.toList := by
  have htext : adjacentText.toList = pairedText (Nat.toDigits 10 7777777777777778 ++ ['.', '0'])
      (Nat.toDigits 10 7777777777777777 ++ ['.', '0']) := by decide +kernel
  rw [htext]
  exact text_paired (numeralText_pointed _) (numeralText_pointed _) (by decide +kernel)
    (by decide +kernel)

def adjacentCategory : Category :=
  ⟨"P", [⟨"N", some 7777777777777778, false, none⟩, ⟨"M", some 7777777777777778, false, none⟩]⟩

theorem arranged_adjacent : adjacentCategory.arranged = adjacentCategory.fields :=
  List.mergeSort_of_pairwise (by decide)

/-- A whole number below the bound, with one digit behind the point, is read as another one, and the
larger of two numbers is shown before the smaller. -/
theorem order_misread :
    ofText .strict adjacentText = .ok ⟨[("A", ⟨[adjacentCategory]⟩)]⟩ ∧
    Json.Padded (Written.Text Json.maxDepth
      (paired (pointed 7777777777777778) (pointed 7777777777777777))) adjacentText.toList ∧
    Writes (numbered "N" (pointed 7777777777777778)) (pointed 7777777777777778) 7777777777777778 ∧
    Writes (numbered "M" (pointed 7777777777777777)) (pointed 7777777777777777) 7777777777777777 ∧
    adjacentCategory.fields.map (fun field => (field.label, field.order)) =
      [("N", some 7777777777777778), ("M", some 7777777777777778)] ∧
    ((⟨[adjacentCategory]⟩ : Provider).layOut "A").form.groups.map (·.labels) = [["N", "M"]] := by
  refine ⟨by decide +kernel, text_adjacent, writes_pointed "N" _, writes_pointed "M" _, rfl, ?_⟩
  change [(adjacentCategory.arranged.map (·.toForm)).map (·.label)] = [["N", "M"]]
  rw [arranged_adjacent]
  rfl

end Schema

end IdentityForms
