/-! # Whole numbers as floating point

The nearest eight byte value to a natural number: fifty-three binary digits are
kept, and of two values equally near the one with an even last digit is taken. -/
set_option autoImplicit false
namespace BoundSql.Decimal

/-- `n / d` rounded to the nearest whole number, a half to the even one. -/
def divHalfEven (n d : Nat) : Nat :=
  let q := n / d
  let twice := 2 * (n % d)
  if d < twice ∨ (twice = d ∧ q % 2 = 1) then q + 1 else q

def nearestFloat (n : Nat) : Float :=
  let dropped := n.log2 - 52
  (Float.ofNat (divHalfEven n (Nat.pow 2 dropped))).scaleB dropped

end BoundSql.Decimal
