import BoundSql.Backoff.Jitter
import BoundSql.Decimal.Binary
import BoundSql.Decimal.Nearest

/-! # Backoff strategies

A strategy gives the delay after each failed attempt, counted from zero.  An
exponential delay is a base times a power of a multiplier, a linear one a base
plus a multiple of an increment; both are capped.  A schedule lists its delays
and stays with the last one. -/
set_option autoImplicit false
namespace BoundSql

open Decimal (Float8)

/-- `r` times `m` to the power `n`, by squaring: multiplications are rounded, so
their order is part of the result. -/
def powerFrom (r m : Float) (n : Nat) : Float :=
  if 0 < n then powerFrom (if n % 2 = 1 then r * m else r) (m * m) (n / 2) else r
termination_by n
decreasing_by omega

structure Exponential where
  base : Duration := Duration.ofMillis 100
  max : Duration := Duration.ofMillis 5000
  multiplier : Float8 := ⟨0x4000000000000000⟩
  jitter : Jitter := .none

/-- Exponents stay below `2 ^ 31`. -/
def Exponential.exponent (attempt : Nat) : Nat := min attempt 2147483647

/-- The delay without jitter.  Whatever is not below the cap, such as a product
that is no number, is the cap; whatever is not above zero is zero. -/
def Exponential.capped (e : Exponential) (attempt : Nat) : Duration :=
  let nanos := Decimal.nearestFloat e.base.nanos
    * powerFrom 1.0 (Float.ofBits e.multiplier.bits) (Exponential.exponent attempt)
  if nanos < Decimal.nearestFloat e.max.nanos then
    if nanos ≤ 0.0 then Duration.zero else Duration.ofWord nanos.toUInt64
  else e.max

structure Linear where
  base : Duration := Duration.ofMillis 100
  max : Duration := Duration.ofMillis 5000
  increment : Duration := Duration.ofMillis 100

/-- A product or a sum that is no duration is above every cap. -/
def Linear.delay (l : Linear) (attempt : Nat) : Duration :=
  (((l.increment.mul? attempt).bind l.base.add?).getD l.max).cappedBy l.max

def scheduledDelay (delays : List Duration) (attempt : Nat) : Duration :=
  (delays[attempt]?.or delays.getLast?).getD Duration.zero

inductive Strategy
  | exponential (e : Exponential)
  | linear (l : Linear)
  | schedule (delays : List Duration)

def Strategy.jitter : Strategy → Jitter
  | .exponential e => e.jitter
  | .linear _ => .none
  | .schedule _ => .none

def Strategy.capped : Strategy → Nat → Duration
  | .exponential e => e.capped
  | .linear l => l.delay
  | .schedule delays => scheduledDelay delays

def Strategy.delay (s : Strategy) (draw : Draw) (attempt : Nat) : Duration :=
  s.jitter.apply draw (s.capped attempt)

def Strategy.certainDelay? (s : Strategy) (attempt : Nat) : Option Duration :=
  if s.jitter.isCertain (s.capped attempt) then
    some (s.delay (fun _ positive => ⟨0, positive⟩) attempt)
  else none

end BoundSql
