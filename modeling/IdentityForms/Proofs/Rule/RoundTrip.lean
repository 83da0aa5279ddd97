import IdentityForms.Proofs.Rule.Tokens

/-! Rules and their text. A list of rules that a text can name is read back from the text it is
written as, and every text names such a list. -/
namespace IdentityForms

namespace Rule

/-- What a text can name: no rule without a token, and one of the two rules on digits at most. -/
structure Nameable (rules : List Rule) : Prop where
  required_notMem : required ∉ rules
  digits_alone : digits ∈ rules → dashedDigits ∉ rules

variable {rules : List Rule} {rule : Rule} {token : List Char}

theorem token?_eq_none : rule.token? = none ↔ rule = required := by
  cases rule <;> simp [token?]

theorem named_of_token? (h : rule.token? = some token) : Named token rule := by
  by_cases hlimit : ∃ limit, rule = atMost limit
  · obtain ⟨limit, rfl⟩ := hlimit
    cases h
    exact .atMost (.inl rfl) (digitRun_toDigits _) Nat.ofDigitChars_ten_toDigits
  · rw [not_exists] at hlimit
    exact (named_iff_token? hlimit).mpr h

theorem bar_notMem_of_token? (h : rule.token? = some token) : '|' ∉ token := by
  cases rule with
  | required => cases h
  | atMost limit =>
    cases h
    rw [List.mem_append, not_or]
    exact ⟨by decide, (digitRun_toDigits _).not_mem_of_isDigit rfl⟩
  | _ => cases h; decide

theorem filterMap_ofToken?_token? (h : required ∉ rules) :
    (rules.filterMap token?).filterMap ofToken? = rules := by
  induction rules with
  | nil => rfl
  | cons rule rules ih =>
    rw [List.mem_cons, not_or] at h
    obtain ⟨token, htoken⟩ := Option.ne_none_iff_exists'.mp
      fun hnone => h.1 (token?_eq_none.mp hnone).symm
    rw [List.filterMap_cons_some htoken,
      List.filterMap_cons_some (ofToken?_eq_some.mpr (named_of_token? htoken)), ih h.2]

/-- The text of no rules holds one token, which is empty and names nothing. -/
theorem filterMap_ofToken?_splitOn {tokens : List (List Char)} (h : ∀ token ∈ tokens, '|' ∉ token) :
    ((['|'].intercalate tokens).splitOn '|').filterMap ofToken? = tokens.filterMap ofToken? := by
  by_cases hempty : tokens = []
  · subst hempty
    rfl
  · rw [List.splitOn_intercalate '|' h hempty]

theorem ofTokens_render (h : Nameable rules) : ofTokens (render rules) = rules := by
  have hbars : ∀ token ∈ rules.filterMap token?, '|' ∉ token := by
    intro token htoken
    obtain ⟨rule, -, hrule⟩ := List.mem_filterMap.mp htoken
    exact bar_notMem_of_token? hrule
  have hnamed : ((render rules).toList.splitOn '|').filterMap ofToken? = rules := by
    rw [render, String.toList_ofList, filterMap_ofToken?_splitOn hbars,
      filterMap_ofToken?_token? h.required_notMem]
  unfold ofTokens
  dsimp only
  rw [hnamed]
  split_ifs with hdashed
  · rw [List.filter_eq_self]
    intro rule hrule
    rw [decide_eq_true_eq]
    rintro rfl
    exact h.digits_alone hrule hdashed
  · rfl

theorem nameable_ofTokens (text : String) : Nameable (ofTokens text) where
  required_notMem h := by
    obtain ⟨⟨token, -, hnamed⟩, -⟩ := mem_ofTokens.mp h
    cases hnamed
  digits_alone hdigits hdashed := by
    obtain ⟨⟨token, htoken, hnamed⟩, -⟩ := mem_ofTokens.mp hdashed
    cases hnamed
    exact (mem_ofTokens.mp hdigits).2 rfl htoken

theorem nameable_validation (validation : Option String) :
    Nameable (validation.elim [] ofTokens) := by
  cases validation with
  | none => exact ⟨List.not_mem_nil, fun h => absurd h List.not_mem_nil⟩
  | some text => exact nameable_ofTokens text

/-- Whether a field is required stands beside its text and not in it. -/
theorem render_ofField (isRequired : Bool) (validation : Option String) :
    render (ofField isRequired validation) = render (validation.elim [] ofTokens) := by
  cases isRequired <;> rfl

end Rule

namespace Schema.Field

/-- The rules of a field are `required`, just if it is required, and then rules that a text can
name. Any such rules are the rules of the field whose text they are written as, and the rules of
any field are read back from theirs. -/
theorem rules_round_trip (field : Schema.Field) :
    (∀ rules, Rule.Nameable rules →
      { field with validation := some (Rule.render rules) }.rules =
        (if field.required then [.required] else []) ++ rules) ∧
    (∃ rules, Rule.Nameable rules ∧
      field.rules = (if field.required then [.required] else []) ++ rules) ∧
    { field with validation := some (Rule.render field.rules) }.rules = field.rules := by
  refine ⟨?written, ⟨_, Rule.nameable_validation field.validation, rfl⟩, ?rewritten⟩
  case written =>
    intro rules hrules
    unfold Schema.Field.rules Rule.ofField
    rw [Option.elim_some, Rule.ofTokens_render hrules]
  case rewritten =>
    unfold Schema.Field.rules
    rw [Rule.render_ofField]
    unfold Rule.ofField
    rw [Option.elim_some, Rule.ofTokens_render (Rule.nameable_validation _)]

theorem rules_round_trip_repeated :
    Rule.Nameable [.past, .atMost 18446744073709551615, .dashedDigits, .past, .dashedDigits] ∧
    (⟨"N", none, true, some
        "past-date|maxlength=18446744073709551615|special=-|past-date|special=-"⟩ :
      Schema.Field).rules =
      [.required, .past, .atMost 18446744073709551615, .dashedDigits, .past, .dashedDigits] := by
  have hnameable : Rule.Nameable
      [.past, .atMost 18446744073709551615, .dashedDigits, .past, .dashedDigits] :=
    ⟨by decide, by decide⟩
  have hrender : Rule.render
      [.past, .atMost 18446744073709551615, .dashedDigits, .past, .dashedDigits] =
      "past-date|maxlength=18446744073709551615|special=-|past-date|special=-" := by decide +kernel
  refine ⟨hnameable, ?_⟩
  rw [← hrender]
  exact (rules_round_trip ⟨"N", none, true, none⟩).1 _ hnameable

end Schema.Field

end IdentityForms
