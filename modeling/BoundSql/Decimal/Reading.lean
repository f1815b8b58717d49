import BoundSql.Decimal.Nearest
import BoundSql.Decimal.Shortest

/-! # Reading decimals

A decimal is read as its digits times a power of ten.  Both become eight byte
values first, and their product or quotient is rounded once more.  So what is
read can be a neighbour of the value that is nearest to the decimal; decimals of
up to fifteen digits whose exponent is at most twenty-two are read exactly. -/
set_option autoImplicit false
namespace BoundSql.Decimal

def powerOfTen (n : Nat) : Float := Float.ofScientific 1 false n

/-- Divides by `10 ^ n`.  The largest power of ten that has a value is the one of 308, so a
greater exponent is divided away in parts. -/
def scaleDown (x : Float) (n : Nat) : Float :=
  if n ≤ 308 then x / powerOfTen n
  else if x == 0 then x
  else scaleDown (x / powerOfTen 308) (n - 308)
termination_by n

def scaleUp? (x : Float) (n : Nat) : Option Float :=
  if x == 0 then some x
  else if 308 < n then none
  else
    let scaled := x * powerOfTen n
    if scaled.isInf then none else some scaled

def Number.read? (d : Number) : Option Float :=
  let digits := nearestFloat d.digits
  if 0 ≤ d.exponent then scaleUp? digits d.exponent.toNat
  else some (scaleDown digits (-d.exponent).toNat)

end BoundSql.Decimal
