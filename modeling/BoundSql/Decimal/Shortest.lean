import BoundSql.Decimal.Binary

/-! # The shortest decimal that reads back

The magnitudes that round to a binary value form an interval around it, half way
to its neighbours on both sides; the ends belong to it when the mantissa is even.
`shortest` takes the coarsest grid of decimals that has a point in the interval
and on it the point nearest to the value.  All comparisons are of natural
numbers, so nothing is rounded on the way. -/
set_option autoImplicit false
namespace BoundSql.Decimal

/-- The number `digits * 10 ^ exponent`. -/
structure Number where
  digits : Nat
  exponent : Int
deriving DecidableEq

/-- The magnitudes that read back as one value, counted in units of
`2 ^ exponent`. -/
structure Rounding where
  low : Nat
  value : Nat
  high : Nat
  closed : Bool
  exponent : Int

/-- Quarters of the last place are fine enough for both ends. -/
def Rounding.of (mantissa : Nat) (exponent : Int) (narrow : Bool) : Rounding where
  low := 4 * mantissa - (if narrow then 1 else 2)
  value := 4 * mantissa
  high := 4 * mantissa + 2
  closed := mantissa % 2 = 0
  exponent := exponent - 2

inductive Tie
  | larger
  | even
deriving DecidableEq

def Rounding.scale (r : Rounding) (grid : Int) : Nat :=
  Nat.pow 2 r.exponent.toNat * Nat.pow 10 (-grid).toNat

/-- The distance of two grid points `10 ^ grid` apart, in scaled units. -/
def Rounding.gridStep (r : Rounding) (grid : Int) : Nat :=
  Nat.pow 2 (-r.exponent).toNat * Nat.pow 10 grid.toNat

def Rounding.accepts (r : Rounding) (grid : Int) (c : Nat) : Bool :=
  let point := c * r.gridStep grid
  let low := r.low * r.scale grid
  let high := r.high * r.scale grid
  if r.closed then decide (low ≤ point) && decide (point ≤ high)
  else decide (low < point) && decide (point < high)

def Rounding.nearest? (r : Rounding) (tie : Tie) (grid : Int) : Option Nat :=
  let value := r.value * r.scale grid
  let step := r.gridStep grid
  let below := value / step
  match r.accepts grid below, r.accepts grid (below + 1) with
  | false, false => none
  | true, false => some below
  | false, true => some (below + 1)
  | true, true =>
    let twice := 2 * (value - below * step)
    if twice < step then some below
    else if step < twice then some (below + 1)
    else if tie = .even && below % 2 = 0 then some below
    else some (below + 1)

/-- Tries the grids from `floor + n` downwards.  The value itself lies on the
grid `floor`, so the search ends there at the latest. -/
def Rounding.search (r : Rounding) (tie : Tie) (floor : Int) : Nat → Number
  | 0 => ⟨r.value * r.scale floor / r.gridStep floor, floor⟩
  | n + 1 =>
    match r.nearest? tie (floor + (n + 1)) with
    | some c => ⟨c, floor + (n + 1)⟩
    | none => r.search tie floor n

/-- The shortest decimal that reads back as `mantissa * 2 ^ exponent`, for a
mantissa other than zero.  A number below `2 ^ (b + 1)` is below
`10 ^ (30103 * b / 100000 + 1)`, so no grid from `ceiling` on has a point in the
interval. -/
def shortest (tie : Tie) (mantissa : Nat) (exponent : Int) (narrow : Bool) : Number :=
  let r := Rounding.of mantissa exponent narrow
  let floor := min r.exponent 0
  let ceiling := (r.exponent + r.value.log2) * 30103 / 100000 + 2
  r.search tie floor (ceiling - floor).toNat

end BoundSql.Decimal
