import IdentityForms.Rule.Basic

/-! The written form of rules: tokens between bars, such as `maxlength=10|digits`. The token
`special=-` asks for dashed digits and silences `digits` wherever it stands; a token that
says nothing known adds no rule. -/
namespace IdentityForms

namespace Rule

/-- The token that stands for a rule; a required field needs none. -/
def token? : Rule → Option (List Char)
  | required => none
  | atMost limit => some ("maxlength=".toList ++ Nat.toDigits 10 limit.toNat)
  | digits => some "digits".toList
  | dashedDigits => some "special=-".toList
  | past => some "past-date".toList
  | future => some "future-date".toList
  | province => some "valid-province".toList

/-- A limit is one or more digits, a plus sign before them allowed, and fits 64 bits. -/
def limit? (text : List Char) : Option UInt64 :=
  let numeral := match text with
    | '+' :: numeral => numeral
    | numeral => numeral
  if isDigits numeral then
    let limit := Nat.ofDigitChars 10 numeral 0
    if h : limit < UInt64.size then some (.ofNatLT limit h) else none
  else none

def ofToken? (token : List Char) : Option Rule :=
  if token = "digits".toList then some digits
  else if token = "special=-".toList then some dashedDigits
  else if token = "past-date".toList then some past
  else if token = "future-date".toList then some future
  else if token = "valid-province".toList then some province
  else if "maxlength=".toList.isPrefixOf token then
    (limit? (token.drop "maxlength=".length)).map atMost
  else none

/-- The rules that the tokens of a text name, in their order. -/
def ofTokens (text : String) : List Rule :=
  let named := (text.toList.splitOn '|').filterMap ofToken?
  if dashedDigits ∈ named then named.filter (· ≠ digits) else named

/-- The rules of a field that may be required and may have a text of tokens. -/
def ofField (isRequired : Bool) (validation : Option String) : List Rule :=
  (if isRequired then [required] else []) ++ (validation.elim [] ofTokens)

/-- The text of a list of rules: the tokens of those that have one, between bars. -/
def render (rules : List Rule) : String :=
  .ofList (['|'].intercalate (rules.filterMap token?))

end Rule

end IdentityForms
