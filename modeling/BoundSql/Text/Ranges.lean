/-! # Sets of characters

A large set of characters is kept as ranges of code points in ascending order,
both ends included. -/
set_option autoImplicit false
namespace BoundSql.Text

abbrev Ranges := List (Nat × Nat)

def Ranges.contains (ranges : Ranges) (c : Char) : Bool :=
  ranges.any fun range => decide (range.1 ≤ c.toNat) && decide (c.toNat ≤ range.2)

end BoundSql.Text
