import IdentityForms.Form.Layout
import IdentityForms.Proofs.Rule.Digits
import Mathlib.Tactic.SplitIfs

/-! The meaning of a text of rules. What is found wrong with a value depends on the tokens that
occur between the bars, and on nothing else in the text. -/
namespace IdentityForms

namespace Rule

/-- The tokens that name a rule. A limit is a number of 64 bits, with or without a plus sign. -/
inductive Named : List Char → Rule → Prop where
  | digits : Named "digits".toList digits
  | dashedDigits : Named "special=-".toList dashedDigits
  | past : Named "past-date".toList past
  | future : Named "future-date".toList future
  | province : Named "valid-province".toList province
  | atMost {sign numeral : List Char} {limit : UInt64} (hsign : sign = [] ∨ sign = ['+'])
      (hnumeral : DigitRun numeral) (hlimit : Nat.ofDigitChars 10 numeral 0 = limit.toNat) :
      Named ("maxlength=".toList ++ (sign ++ numeral)) (atMost limit)

/-- What is left of the text of a limit without its sign. -/
def unsigned : List Char → List Char
  | '+' :: numeral => numeral
  | numeral => numeral

theorem limit?_eq_some_iff {text : List Char} {limit : UInt64} :
    limit? text = some limit ↔
      DigitRun (unsigned text) ∧ Nat.ofDigitChars 10 (unsigned text) 0 = limit.toNat := by
  have hlimit : limit? text = if isDigits (unsigned text) then
      if h : Nat.ofDigitChars 10 (unsigned text) 0 < UInt64.size then some (.ofNatLT _ h) else none
    else none := by
    unfold limit? unsigned
    rfl
  rw [hlimit, ← isDigits_iff]
  split_ifs with hdigits hsize
  · simp [hdigits, ← UInt64.toNat_inj]
  · simp [hdigits]
    intro h
    exact hsize (h ▸ limit.toNat_lt)
  · simp [hdigits]

theorem limit?_eq_some {text : List Char} {limit : UInt64} : limit? text = some limit ↔
    ∃ sign numeral, text = sign ++ numeral ∧ (sign = [] ∨ sign = ['+']) ∧ DigitRun numeral ∧
      Nat.ofDigitChars 10 numeral 0 = limit.toNat := by
  rw [limit?_eq_some_iff]
  constructor
  · intro h
    unfold unsigned at h
    split at h
    · next numeral => exact ⟨['+'], numeral, rfl, .inr rfl, h⟩
    · exact ⟨[], text, rfl, .inl rfl, h⟩
  · rintro ⟨sign, numeral, rfl, rfl | rfl, hnumeral, hlimit⟩
    · have hunsigned : unsigned numeral = numeral := by
        unfold unsigned
        split
        · exact absurd List.mem_cons_self (hnumeral.not_mem_of_isDigit rfl)
        · rfl
      rw [List.nil_append, hunsigned]
      exact ⟨hnumeral, hlimit⟩
    · exact ⟨hnumeral, hlimit⟩

theorem drop_maxlength (text : List Char) :
    ("maxlength=".toList ++ text).drop "maxlength=".length = text := List.drop_left' rfl

theorem ofToken?_maxlength (text : List Char) :
    ofToken? ("maxlength=".toList ++ text) = (limit? text).map atMost := by
  unfold ofToken?
  rw [drop_maxlength]
  simp

theorem ofToken?_eq_some {token : List Char} {rule : Rule} :
    ofToken? token = some rule ↔ Named token rule := by
  constructor
  · intro h
    unfold ofToken? at h
    split_ifs at h with hdigits hdashed hpast hfuture hprovince hprefix
    · cases h
      exact hdigits ▸ .digits
    · cases h
      exact hdashed ▸ .dashedDigits
    · cases h
      exact hpast ▸ .past
    · cases h
      exact hfuture ▸ .future
    · cases h
      exact hprovince ▸ .province
    · obtain ⟨limit, hlimit, rfl⟩ := Option.map_eq_some_iff.mp h
      obtain ⟨text, rfl⟩ := List.isPrefixOf_iff_prefix.mp hprefix
      rw [drop_maxlength] at hlimit
      obtain ⟨sign, numeral, rfl, hsign, hnumeral, hnumber⟩ := limit?_eq_some.mp hlimit
      exact .atMost hsign hnumeral hnumber
  · intro h
    cases h with
    | atMost hsign hnumeral hlimit =>
      rw [ofToken?_maxlength, limit?_eq_some.mpr ⟨_, _, rfl, hsign, hnumeral, hlimit⟩]
      rfl
    | _ => decide

/-- Every rule but a limit and `required` has one token. -/
theorem named_iff_token? {token : List Char} {rule : Rule} (hfixed : ∀ limit, rule ≠ atMost limit) :
    Named token rule ↔ rule.token? = some token := by
  constructor
  · intro h
    cases h with
    | atMost => exact absurd rfl (hfixed _)
    | _ => rfl
  · intro h
    cases rule with
    | required => cases h
    | atMost limit => exact absurd rfl (hfixed limit)
    | digits => cases h; exact .digits
    | dashedDigits => cases h; exact .dashedDigits
    | past => cases h; exact .past
    | future => cases h; exact .future
    | province => cases h; exact .province

theorem exists_named_iff {tokens : List (List Char)} {token : List Char} {rule : Rule}
    (hfixed : ∀ limit, rule ≠ atMost limit) (htoken : rule.token? = some token) :
    (∃ other ∈ tokens, Named other rule) ↔ token ∈ tokens := by
  simp [named_iff_token? hfixed, htoken]

theorem mem_ofTokens {text : String} {rule : Rule} : rule ∈ ofTokens text ↔
    (∃ token ∈ text.toList.splitOn '|', Named token rule) ∧
      (rule = digits → "special=-".toList ∉ text.toList.splitOn '|') := by
  have hnamed (rule : Rule) : rule ∈ (text.toList.splitOn '|').filterMap ofToken? ↔
      ∃ token ∈ text.toList.splitOn '|', Named token rule := by
    simp [ofToken?_eq_some]
  have hdashed : dashedDigits ∈ (text.toList.splitOn '|').filterMap ofToken? ↔
      "special=-".toList ∈ text.toList.splitOn '|' := by
    rw [hnamed, exists_named_iff (by simp) rfl]
  unfold ofTokens
  dsimp only
  -- Whether `digits` is silenced is asked once, of all tokens, before any rule is left out.
  split_ifs with h
  · rw [List.mem_filter, hnamed, decide_eq_true_eq]
    apply and_congr_right
    intro _
    exact ⟨fun hne heq => absurd heq hne, fun hsilent heq => hsilent heq (hdashed.mp h)⟩
  · rw [hnamed]
    exact (and_iff_left fun _ => mt hdashed.mpr h).symm

theorem exists_rule {P : Rule → Prop} : (∃ rule, P rule) ↔
    P required ∨ (∃ limit, P (atMost limit)) ∨ P digits ∨ P dashedDigits ∨ P past ∨ P future ∨
      P province := by
  constructor
  · rintro ⟨rule, h⟩
    cases rule with
    | atMost limit => exact .inr (.inl ⟨limit, h⟩)
    | _ => simp [h]
  · rintro (h | ⟨_, h⟩ | h | h | h | h | h) <;> exact ⟨_, h⟩

/-- What each failure says of a value that is not empty and the rules that it must pass. -/
def Breaks (rules : List Rule) (value : String) (now : Moment) : Failure → Prop
  | .missing => False
  | .tooLong => ∃ limit, atMost limit ∈ rules ∧ limit.toNat < value.length
  | .notDigits => digits ∈ rules ∧ ¬ DigitRun value.toList
  | .badFormat => dashedDigits ∈ rules ∧ ¬ DigitGroups value.toList ∨
      (past ∈ rules ∨ future ∈ rules) ∧ Moment.ofText? value = none
  | .notPast => past ∈ rules ∧ ∃ date, Moment.ofText? value = some date ∧ now ≤ date
  | .notFuture => future ∈ rules ∧ ∃ date, Moment.ofText? value = some date ∧ date ≤ now
  | .unknownProvince => province ∈ rules ∧ value ∉ provinceCodes

theorem mem_failures_of_ne {rules : List Rule} {value : String} {now : Moment} {failure : Failure}
    (hvalue : value ≠ "") :
    failure ∈ failures rules value now ↔ Breaks rules value now failure := by
  rw [mem_failures, exists_rule]
  simp only [failure?, hvalue, if_false, failureOfNonempty?, Breaks, ← isDigits_iff,
    ← isDashedDigits_iff, ← Moment.not_lt]
  cases hdate : Moment.ofText? value with
  | none => cases failure <;> simp
  | some date => cases failure <;> simp

theorem failures_congr {left right : List Rule} (h : ∀ rule, rule ∈ left ↔ rule ∈ right)
    (value : String) (now : Moment) : failures left value now = failures right value now := by
  apply Failures.ext
  intro failure
  simp only [mem_failures, h]

end Rule

namespace Schema.Field

/-- The texts between the bars. -/
def tokens (field : Schema.Field) : List (List Char) :=
  field.validation.elim [] (·.toList.splitOn '|')

variable {field : Schema.Field}

theorem mem_rules {rule : Rule} : rule ∈ field.rules ↔ rule = .required ∧ field.required ∨
    (∃ token ∈ field.tokens, Rule.Named token rule) ∧
      (rule = .digits → "special=-".toList ∉ field.tokens) := by
  unfold rules Rule.ofField tokens
  cases field.validation with
  | none => cases field.required <;> simp
  | some text => cases field.required <;> simp [Rule.mem_ofTokens]

theorem mem_rules_of_token {rule : Rule} {token : List Char}
    (hfixed : ∀ limit, rule ≠ .atMost limit) (htoken : rule.token? = some token) :
    rule ∈ field.rules ↔
      token ∈ field.tokens ∧ (rule = .digits → "special=-".toList ∉ field.tokens) := by
  have hrequired : rule ≠ .required := by
    rintro rfl
    cases htoken
  rw [mem_rules, Rule.exists_named_iff hfixed htoken, or_iff_right fun h => hrequired h.1]

theorem mem_rules_digits : .digits ∈ field.rules ↔
    "digits".toList ∈ field.tokens ∧ "special=-".toList ∉ field.tokens := by
  rw [mem_rules_of_token (by simp) rfl, forall_prop_of_true rfl]

theorem mem_rules_of_ne_digits {rule : Rule} {token : List Char} (hne : rule ≠ .digits)
    (hfixed : ∀ limit, rule ≠ .atMost limit) (htoken : rule.token? = some token) :
    rule ∈ field.rules ↔ token ∈ field.tokens := by
  rw [mem_rules_of_token hfixed htoken, and_iff_left fun h => absurd h hne]

theorem mem_rules_atMost {limit : UInt64} :
    .atMost limit ∈ field.rules ↔ ∃ token ∈ field.tokens, Rule.Named token (.atMost limit) := by
  simp [mem_rules]

theorem mem_rules_required : .required ∈ field.rules ↔ field.required := by
  have hunnamed (token : List Char) : ¬ Rule.Named token .required := fun h => nomatch h
  simp [mem_rules, hunnamed]

/-- What is found wrong with a value, told by the tokens that occur in the text of the rules. Texts
in which the same rules are named find the same, whatever else they hold. -/
theorem failures_of_tokens (field : Schema.Field) (value : String) (now : Moment) :
    let found := Rule.failures field.rules value now
    (.missing ∈ found ↔ field.required ∧ value = "") ∧
    (value = "" → ∀ failure ∈ found, failure = .missing) ∧
    (value ≠ "" →
      (.tooLong ∈ found ↔ ∃ token ∈ field.tokens, ∃ limit, Rule.Named token (.atMost limit) ∧
        limit.toNat < value.length) ∧
      (.notDigits ∈ found ↔ "digits".toList ∈ field.tokens ∧ "special=-".toList ∉ field.tokens ∧
        ¬ DigitRun value.toList) ∧
      (.badFormat ∈ found ↔ "special=-".toList ∈ field.tokens ∧ ¬ DigitGroups value.toList ∨
        ("past-date".toList ∈ field.tokens ∨ "future-date".toList ∈ field.tokens) ∧
          Moment.ofText? value = none) ∧
      (.notPast ∈ found ↔ "past-date".toList ∈ field.tokens ∧
        ∃ date, Moment.ofText? value = some date ∧ now ≤ date) ∧
      (.notFuture ∈ found ↔ "future-date".toList ∈ field.tokens ∧
        ∃ date, Moment.ofText? value = some date ∧ date ≤ now) ∧
      (.unknownProvince ∈ found ↔
        "valid-province".toList ∈ field.tokens ∧ value ∉ provinceCodes)) ∧
    ∀ other : Schema.Field, other.required = field.required →
      (∀ token rule, Rule.Named token rule → (token ∈ other.tokens ↔ token ∈ field.tokens)) →
      Rule.failures other.rules value now = found := by
  intro found
  refine ⟨?missing, ?empty, ?nonempty, ?other⟩
  case missing =>
    by_cases hvalue : value = ""
    · rw [Rule.mem_failures]
      simp [Rule.failure?, hvalue, mem_rules_required]
    · rw [Rule.mem_failures_of_ne hvalue]
      simp [Rule.Breaks, hvalue]
  case empty =>
    rintro rfl failure hfailure
    obtain ⟨rule, -, hrule⟩ := Rule.mem_failures.mp hfailure
    rw [Rule.failure?, if_pos rfl] at hrule
    split at hrule
    · exact (Option.some.inj hrule).symm
    · cases hrule
  case nonempty =>
    intro hvalue
    have hdashed : .dashedDigits ∈ field.rules ↔ "special=-".toList ∈ field.tokens :=
      mem_rules_of_ne_digits (by simp) (by simp) rfl
    have hpast : .past ∈ field.rules ↔ "past-date".toList ∈ field.tokens :=
      mem_rules_of_ne_digits (by simp) (by simp) rfl
    have hfuture : .future ∈ field.rules ↔ "future-date".toList ∈ field.tokens :=
      mem_rules_of_ne_digits (by simp) (by simp) rfl
    have hprovince : .province ∈ field.rules ↔ "valid-province".toList ∈ field.tokens :=
      mem_rules_of_ne_digits (by simp) (by simp) rfl
    simp only [found, Rule.mem_failures_of_ne hvalue, Rule.Breaks, mem_rules_atMost,
      mem_rules_digits, hdashed, hpast, hfuture, hprovince, and_assoc, and_true]
    constructor
    · rintro ⟨limit, ⟨token, htoken, hnamed⟩, hlong⟩
      exact ⟨token, htoken, limit, hnamed, hlong⟩
    · rintro ⟨token, htoken, limit, hnamed, hlong⟩
      exact ⟨limit, ⟨token, htoken, hnamed⟩, hlong⟩
  case other =>
    intro other hrequired htokens
    apply Rule.failures_congr
    intro rule
    have hspecial := htokens _ _ .dashedDigits
    have hnamed : (∃ token ∈ other.tokens, Rule.Named token rule) ↔
        ∃ token ∈ field.tokens, Rule.Named token rule :=
      exists_congr fun token => and_congr_left fun h => htokens token rule h
    rw [mem_rules, mem_rules, hrequired, hnamed, hspecial]

end Schema.Field

end IdentityForms
