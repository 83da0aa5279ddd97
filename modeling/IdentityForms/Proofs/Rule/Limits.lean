import Mathlib.Data.Nat.Digits.Defs
import Mathlib.Order.Bounds.Basic
import IdentityForms.Proofs.Rule.Tokens

/-! Limits on the length of a value. A token limits a value to the number that its digits stand for,
also where that number has more than 64 bits and the token names no rule, as no value is that
long. -/
namespace IdentityForms

/-- The number that digits stand for, each in its decimal place. -/
def decimal (numeral : List Char) : Nat :=
  Nat.ofDigits 10 (numeral.reverse.map fun c => c.toNat - '0'.toNat)

theorem ofDigitChars_eq_decimal (numeral : List Char) :
    Nat.ofDigitChars 10 numeral 0 = decimal numeral := by
  unfold decimal
  induction numeral with
  | nil => rfl
  | cons c numeral ih =>
    rw [Nat.ofDigitChars_cons, Nat.ofDigitChars_eq_ofDigitChars_zero, ih, List.reverse_cons,
      List.map_append, Nat.ofDigits_append, List.map_singleton, Nat.ofDigits_singleton,
      List.length_map, List.length_reverse, Nat.mul_zero, Nat.zero_add, Nat.add_comm]

namespace Rule

/-- The tokens that state a limit, and the number that each states. -/
inductive StatesLimit : List Char → Nat → Prop where
  | digits {sign numeral : List Char} (hsign : sign = [] ∨ sign = ['+'])
      (hnumeral : DigitRun numeral) :
      StatesLimit ("maxlength=".toList ++ (sign ++ numeral)) (decimal numeral)

variable {token : List Char} {limit : UInt64}

theorem named_atMost_iff : Named token (atMost limit) ↔ StatesLimit token limit.toNat := by
  constructor
  · intro h
    cases h with
    | atMost hsign hnumeral hlimit =>
      rw [← hlimit, ofDigitChars_eq_decimal]
      exact .digits hsign hnumeral
  · intro h
    generalize hn : limit.toNat = n at h
    cases h with
    | @digits _ numeral hsign hnumeral =>
      exact .atMost hsign hnumeral ((ofDigitChars_eq_decimal numeral).trans hn.symm)

/-- Below `2 ^ 64` the numbers that are stated are the limits that are named. -/
theorem exists_named_atMost_iff {bound : Nat} (hbound : bound < 2 ^ 64) :
    (∃ limit, Named token (atMost limit) ∧ limit.toNat < bound) ↔
      ∃ n, StatesLimit token n ∧ n < bound := by
  simp only [named_atMost_iff]
  constructor
  · rintro ⟨limit, hstated, hlt⟩
    exact ⟨limit.toNat, hstated, hlt⟩
  · rintro ⟨n, hstated, hlt⟩
    have hn : (UInt64.ofNat n).toNat = n := UInt64.toNat_ofNat_of_lt' (hlt.trans hbound)
    exact ⟨.ofNat n, by rwa [hn], by rwa [hn]⟩

/-- What begins as a limit but states no number of 64 bits names nothing. -/
theorem ofToken?_eq_none (hlimit : "maxlength=".toList <+: token)
    (hlarge : ∀ n, StatesLimit token n → 2 ^ 64 ≤ n) : ofToken? token = none := by
  obtain ⟨text, rfl⟩ := hlimit
  rw [ofToken?_maxlength, Option.map_eq_none_iff, Option.eq_none_iff_forall_ne_some]
  intro limit hsome
  have hnamed : Named ("maxlength=".toList ++ text) (atMost limit) := by
    rw [← ofToken?_eq_some, ofToken?_maxlength, hsome]
    rfl
  exact absurd (hlarge _ (named_atMost_iff.mp hnamed)) (Nat.not_le.mpr limit.toNat_lt)

end Rule

namespace Schema.Field

variable {field other : Schema.Field}

/-- The numbers that a field's tokens state as limits. -/
def statedLimits (field : Schema.Field) : Set Nat :=
  {n | ∃ token ∈ field.tokens, Rule.StatesLimit token n}

/-- The rules are those that the tokens name, and tokens that name none are as good as left out. -/
theorem rules_eq_of_named (hrequired : other.required = field.required)
    (hnamed : other.tokens.filterMap Rule.ofToken? = field.tokens.filterMap Rule.ofToken?) :
    other.rules = field.rules := by
  have hrules (validation : Option String) : validation.elim [] Rule.ofTokens =
      let named := (validation.elim [] (·.toList.splitOn '|')).filterMap Rule.ofToken?
      if .dashedDigits ∈ named then named.filter (· ≠ .digits) else named := by
    cases validation <;> rfl
  unfold rules Rule.ofField
  rw [hrequired, hrules, hrules, ← tokens, ← tokens, hnamed]

theorem tooLong_mem_failures_iff {value : String} (hvalue : value ≠ "")
    (hlength : value.length < 2 ^ 64) (now : Moment) :
    .tooLong ∈ Rule.failures field.rules value now ↔
      ∃ token ∈ field.tokens, ∃ n, Rule.StatesLimit token n ∧ n < value.length := by
  rw [Rule.mem_failures_of_ne hvalue]
  simp only [Rule.Breaks, mem_rules_atMost, ← Rule.exists_named_atMost_iff hlength]
  constructor
  · rintro ⟨limit, ⟨token, htoken, hnamed⟩, hlt⟩
    exact ⟨token, htoken, limit, hnamed, hlt⟩
  · rintro ⟨token, htoken, limit, hnamed, hlt⟩
    exact ⟨limit, ⟨token, htoken, hnamed⟩, hlt⟩

/-- A value is too long just if it has more characters than one of the numbers that its field's
tokens state as limits, and so just if it has more than the least of them. Put anywhere among the
tokens, one that begins as a limit but states no number of 64 bits changes no rule. -/
theorem limits_mean_their_numbers (field : Schema.Field) {value : String} (hvalue : value ≠ "")
    (hlength : value.length < 2 ^ 64) (now : Moment) :
    (.tooLong ∈ Rule.failures field.rules value now ↔
      ∃ token ∈ field.tokens, ∃ n, Rule.StatesLimit token n ∧ n < value.length) ∧
    (∀ least, IsLeast field.statedLimits least →
      (.tooLong ∈ Rule.failures field.rules value now ↔ least < value.length)) ∧
    (∀ token, "maxlength=".toList <+: token → (∀ n, Rule.StatesLimit token n → 2 ^ 64 ≤ n) →
      ∀ front back, field.tokens = front ++ back →
        ∀ other : Schema.Field, other.required = field.required →
          other.tokens = front ++ token :: back → other.rules = field.rules) := by
  refine ⟨tooLong_mem_failures_iff hvalue hlength now, ?least, ?nothing⟩
  case least =>
    rintro least ⟨⟨token, htoken, hstated⟩, hleast⟩
    rw [tooLong_mem_failures_iff hvalue hlength]
    constructor
    · rintro ⟨other, hother, n, hn, hlt⟩
      exact Nat.lt_of_le_of_lt (hleast ⟨other, hother, hn⟩) hlt
    · intro hlt
      exact ⟨token, htoken, least, hstated, hlt⟩
  case nothing =>
    intro token hlimit hlarge front back hfield other hrequired hother
    apply rules_eq_of_named hrequired
    rw [hfield, hother, List.filterMap_append, List.filterMap_append,
      List.filterMap_cons_none (Rule.ofToken?_eq_none hlimit hlarge)]

/-- Four characters of two bytes each, beside limits of which one is too large to be a rule. -/
theorem limits_mean_their_numbers_padded :
    "éèêë" ≠ "" ∧ "éèêë".length < 2 ^ 64 ∧
    .tooLong ∈ Rule.failures (⟨"N", none, false, some
      "maxlength=18446744073709551616|maxlength=-1|maxlength=+0003"⟩ : Schema.Field).rules
      "éèêë" ⟨0, 0⟩ := by
  have hvalue : "éèêë" ≠ "" := by decide
  have hlength : "éèêë".length < 2 ^ 64 := by decide
  have hstated : Rule.StatesLimit "maxlength=+0003".toList 3 :=
    @Rule.StatesLimit.digits ['+'] ['0', '0', '0', '3'] (.inr rfl) (isDigits_iff.mp (by decide))
  refine ⟨hvalue, hlength, ?_⟩
  rw [(limits_mean_their_numbers _ hvalue hlength _).1]
  exact ⟨_, by decide +kernel, 3, hstated, by decide⟩

end Schema.Field

end IdentityForms
