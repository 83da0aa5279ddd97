/-! Sets of code points as lists of ranges, each with its first and last member. -/
namespace IdentityForms

abbrev RangeTable := List (Nat × Nat)

def RangeTable.contains (table : RangeTable) (c : Char) : Bool :=
  table.any fun (first, last) => first ≤ c.toNat && c.toNat ≤ last

end IdentityForms
