import IdentityForms.Text.CaseTable

/-! Lower case by the full mapping of Unicode. Each character has its own image, except that
a capital sigma at the end of a word becomes the final sigma. -/
namespace IdentityForms

/-- The single character that a character maps to; most map to themselves. -/
def simpleLower (c : Char) : Char :=
  match lowerRuns.find? (·.covers c.toNat) with
  | some run => Char.ofNat (c.toNat + run.shift).toNat
  | none => c

/-- The image of a character apart from its surroundings. -/
def lowerChar (c : Char) : List Char :=
  if c = 'İ' then ['i', '\u0307'] else [simpleLower c]

/-- Whether a text, after what case ignores, goes on with a letter that has case. -/
def startsCased : List Char → Bool
  | [] => false
  | c :: text => if caseIgnorable.contains c then startsCased text else cased.contains c

/-- The image of a capital sigma between two texts, of which the former is reversed. -/
def lowerSigma (before after : List Char) : Char :=
  if startsCased before && !startsCased after then 'ς' else 'σ'

/-- The image of a text that follows another, which is reversed. -/
def lowercaseAfter (before : List Char) : List Char → List Char
  | [] => []
  | c :: text =>
    (if c = 'Σ' then [lowerSigma before text] else lowerChar c) ++ lowercaseAfter (c :: before) text

def lowercase (text : List Char) : List Char := lowercaseAfter [] text

end IdentityForms
