import BoundSql.Duration

/-! # Jitter

Jitter draws a part of a delay at random, so that callers who failed together do
not return together.  A source of randomness is a function that answers any span
other than zero with a number below it. -/
set_option autoImplicit false
namespace BoundSql

/-- Answers a span with a number below it. -/
def Draw := (span : Nat) → 0 < span → Fin span

/-- The span of a draw below a duration: its nanoseconds, as far as they fit into
sixty-four bits. -/
def drawSpan (upper : Duration) : Nat := min upper.nanos 18446744073709551615

def Draw.below (draw : Draw) (upper : Duration) : Option Duration :=
  if some_span : 0 < drawSpan upper then
    let drawn := draw (drawSpan upper) some_span
    some ⟨drawn.val, Nat.lt_of_lt_of_le drawn.isLt
      (Nat.le_trans (Nat.min_le_left _ _) (Nat.le_of_lt upper.nanos_lt))⟩
  else none

inductive Jitter
  | none
  | full
  | equal
deriving DecidableEq

/-- Full jitter draws the whole delay, equal jitter its second half.  Where there
is nothing to draw the delay stays as it is. -/
def Jitter.apply (j : Jitter) (draw : Draw) (delay : Duration) : Duration :=
  match j with
  | .none => delay
  | .full => (draw.below delay).getD delay
  | .equal =>
    match draw.below delay.half with
    | some drawn => (delay.half.add? drawn).getD delay
    | Option.none => delay

/-- Whether every source of randomness leads to the same delay: the span that is
drawn from holds one number at most. -/
def Jitter.isCertain (j : Jitter) (delay : Duration) : Bool :=
  match j with
  | .none => true
  | .full => decide (drawSpan delay ≤ 1)
  | .equal => decide (drawSpan delay.half ≤ 1)

end BoundSql
