import IdentityForms.Text.Lowercase

/-! The names that contain a query, whatever the case of their letters. -/
namespace IdentityForms

/-- Whether a text occurs in another as a run of characters. -/
def occursIn (needle : List Char) : List Char → Bool
  | [] => needle.isEmpty
  | c :: text => needle.isPrefixOf (c :: text) || occursIn needle text

theorem occursIn_iff {needle text : List Char} : occursIn needle text ↔ needle <:+: text := by
  induction text with
  | nil => simp [occursIn]
  | cons c text ih => simp [occursIn, ih, List.infix_cons_iff]

/-- Whether a query finds a name. An empty query finds every name. -/
def finds (query name : String) : Bool :=
  query = "" || occursIn (lowercase query.toList) (lowercase name.toList)

def matchingNames (names : List String) (query : String) : List String :=
  names.filter (finds query)

end IdentityForms
