import BoundSql.Backoff.Strategy

/-! # Bounds of delays

A linear delay is the exact sum, capped: where the product or the sum is no duration any
more, the exact sum is above every cap.  Jitter leaves a delay below what it was without
it, whatever the source of randomness answers; it asks for one span at most, and never
for an empty one. -/
set_option autoImplicit false
namespace BoundSql

theorem Linear.nanos_delay (l : Linear) (attempt : Nat) :
    (l.delay attempt).nanos =
      min (l.base.nanos + attempt * l.increment.nanos) l.max.nanos := by
  have delay : (l.delay attempt).nanos =
      min (((l.increment.mul? attempt).bind l.base.add?).getD l.max).nanos l.max.nanos :=
    Duration.nanos_cappedBy _ _
  rw [delay, Nat.mul_comm attempt]
  cases product : l.increment.mul? attempt with
  | none =>
    have above := Duration.lt_of_ofNanos?_eq_none product l.max
    rw [Option.bind_none, Option.getD_none]
    omega
  | some step =>
    rw [← Duration.mul?_eq_some_iff.mp product, Option.bind_some]
    cases total : l.base.add? step with
    | none =>
      have above := Duration.lt_of_ofNanos?_eq_none total l.max
      rw [Option.getD_none]
      omega
    | some sum => rw [Option.getD_some, Duration.add?_eq_some_iff.mp total]

/-- A linear delay is the base and one increment for each attempt, to the nanosecond, but
not above the cap.  So it never falls from one attempt to the next, and the cap holds
even where the base is above it, or where a product or a sum is no duration. -/
theorem linear_delay_exact (l : Linear) :
    (∀ attempt, (l.delay attempt).nanos =
      min (l.base.nanos + attempt * l.increment.nanos) l.max.nanos) ∧
      (∀ earlier later, earlier ≤ later →
        (l.delay earlier).nanos ≤ (l.delay later).nanos) ∧
      ∀ attempt, (l.delay attempt).nanos ≤ l.max.nanos := by
  refine ⟨l.nanos_delay, fun earlier later before => ?_, fun attempt => ?_⟩
  · have steps : earlier * l.increment.nanos ≤ later * l.increment.nanos :=
      Nat.mul_le_mul_right _ before
    rw [l.nanos_delay, l.nanos_delay]
    omega
  · rw [l.nanos_delay]
    exact Nat.min_le_right _ _

example :
    let longest : Duration := ⟨durationLimit - 1, by decide⟩
    let l : Linear := { base := longest, increment := longest }
    l.increment.mul? 4294967295 = none ∧ l.base.add? l.increment = none ∧
      l.max.nanos < l.base.nanos ∧ l.delay 0 = l.max ∧ l.delay 4294967295 = l.max := by
  decide

theorem drawSpan_pos_iff (upper : Duration) : 0 < drawSpan upper ↔ 0 < upper.nanos := by
  unfold drawSpan
  omega

theorem drawSpan_le_one_iff (upper : Duration) : drawSpan upper ≤ 1 ↔ upper.nanos ≤ 1 := by
  unfold drawSpan
  omega

theorem drawSpan_le (upper : Duration) : drawSpan upper ≤ upper.nanos := Nat.min_le_left _ _

theorem Draw.below_of_pos (draw : Draw) {upper : Duration} (positive : 0 < drawSpan upper) :
    ∃ drawn, draw.below upper = some drawn ∧
      drawn.nanos = (draw (drawSpan upper) positive).val := by
  unfold below
  rw [dif_pos positive]
  exact ⟨_, rfl, rfl⟩

theorem Draw.below_of_zero (draw : Draw) {upper : Duration} (zero : ¬ 0 < drawSpan upper) :
    draw.below upper = none := by
  unfold below
  rw [dif_neg zero]

theorem Draw.lt_of_below (draw : Draw) {upper drawn : Duration}
    (h : draw.below upper = some drawn) : drawn.nanos < upper.nanos := by
  by_cases positive : 0 < drawSpan upper
  · obtain ⟨other, below, value⟩ := draw.below_of_pos positive
    obtain rfl : drawn = other := Option.some.inj (h.symm.trans below)
    rw [value]
    exact Nat.lt_of_lt_of_le (draw (drawSpan upper) positive).isLt (drawSpan_le upper)
  · rw [draw.below_of_zero positive] at h
    cases h

def Draw.constant (n : Nat) : Draw := fun span positive => ⟨n % span, Nat.mod_lt n positive⟩

def Jitter.drawn (j : Jitter) (delay : Duration) : Duration :=
  match j with
  | .none => Duration.zero
  | .full => delay
  | .equal => delay.half

/-- The part of a delay that jitter keeps. -/
def Jitter.kept (j : Jitter) (delay : Duration) : Nat :=
  match j with
  | .none => delay.nanos
  | .full => 0
  | .equal => delay.nanos / 2

theorem Jitter.kept_add_drawn_le (j : Jitter) (delay : Duration) :
    j.kept delay + (j.drawn delay).nanos ≤ delay.nanos := by
  cases j with
  | none => exact Nat.le_refl _
  | full => exact Nat.le_of_eq (Nat.zero_add _)
  | equal =>
    have half : (Jitter.equal.drawn delay).nanos = delay.nanos / 2 := rfl
    rw [half, kept]
    omega

theorem Jitter.apply_of_zero (j : Jitter) (draw : Draw) {delay : Duration}
    (zero : ¬ 0 < drawSpan (j.drawn delay)) : j.apply draw delay = delay := by
  cases j with
  | none => rfl
  | full =>
    have nothing : draw.below delay = Option.none := draw.below_of_zero zero
    rw [apply, nothing, Option.getD_none]
  | equal =>
    have nothing : draw.below delay.half = Option.none := draw.below_of_zero zero
    rw [apply, nothing]

theorem Jitter.half_add_drawn (draw : Draw) {delay drawn : Duration}
    (h : draw.below delay.half = some drawn) :
    delay.half.add? drawn = some (Jitter.equal.apply draw delay) := by
  have short := draw.lt_of_below h
  rw [Duration.nanos_half] at short
  have result : Jitter.equal.apply draw delay = (delay.half.add? drawn).getD delay := by
    rw [apply, h]
  rw [result]
  cases total : delay.half.add? drawn with
  | none =>
    have above := Duration.lt_of_ofNanos?_eq_none total delay
    rw [Duration.nanos_half] at above
    omega
  | some sum => rfl

/-- Otherwise the delay is what is kept and what is drawn. -/
theorem Jitter.nanos_apply (j : Jitter) (draw : Draw) {delay : Duration}
    (positive : 0 < drawSpan (j.drawn delay)) :
    (j.apply draw delay).nanos =
      j.kept delay + (draw (drawSpan (j.drawn delay)) positive).val := by
  obtain ⟨drawn, below, value⟩ := draw.below_of_pos positive
  rw [← value]
  cases j with
  | none => exact absurd positive (Nat.lt_irrefl 0)
  | full =>
    have drawn_below : draw.below delay = some drawn := below
    rw [apply, drawn_below, Option.getD_some, kept, Nat.zero_add]
  | equal => exact Duration.add?_eq_some_iff.mp (Jitter.half_add_drawn draw below)

/-- What jitter comes to: the delay itself where there is nothing to draw, or else what is
kept and less than what is drawn from. -/
theorem Jitter.apply_cases (j : Jitter) (draw : Draw) (delay : Duration) :
    ((j.drawn delay).nanos = 0 ∧ j.apply draw delay = delay) ∨
      (j.kept delay ≤ (j.apply draw delay).nanos ∧
        (j.apply draw delay).nanos < j.kept delay + (j.drawn delay).nanos) := by
  by_cases positive : 0 < drawSpan (j.drawn delay)
  · have drawn := (draw (drawSpan (j.drawn delay)) positive).isLt
    have span := drawSpan_le (j.drawn delay)
    rw [j.nanos_apply draw positive]
    omega
  · have nothing := mt (drawSpan_pos_iff _).mpr positive
    exact Or.inl ⟨Nat.eq_zero_of_not_pos nothing, j.apply_of_zero draw positive⟩

theorem Jitter.nanos_apply_le (j : Jitter) (draw : Draw) (delay : Duration) :
    (j.apply draw delay).nanos ≤ delay.nanos := by
  have whole := j.kept_add_drawn_le delay
  rcases j.apply_cases draw delay with ⟨-, constant⟩ | ⟨-, below⟩
  · exact Nat.le_of_eq (congrArg Duration.nanos constant)
  · omega

theorem Jitter.apply_congr (j : Jitter) {draw other : Draw} {delay : Duration}
    (agree : ∀ positive, draw (drawSpan (j.drawn delay)) positive =
      other (drawSpan (j.drawn delay)) positive) : j.apply draw delay = j.apply other delay := by
  by_cases positive : 0 < drawSpan (j.drawn delay)
  · apply Duration.ext
    rw [j.nanos_apply draw positive, j.nanos_apply other positive, agree positive]
  · rw [j.apply_of_zero draw positive, j.apply_of_zero other positive]

/-- Chance has no part in a delay exactly where no two numbers can be drawn. -/
theorem Jitter.certain_iff (j : Jitter) (delay : Duration) :
    (∀ draw other : Draw, j.apply draw delay = j.apply other delay) ↔
      (j.drawn delay).nanos ≤ 1 := by
  rw [← drawSpan_le_one_iff]
  constructor
  · intro certain
    refine Nat.le_of_not_lt fun more => ?_
    have positive : 0 < drawSpan (j.drawn delay) := by omega
    -- zero and one are both below the span
    have delays := congrArg Duration.nanos (certain (.constant 0) (.constant 1))
    have one : 1 % drawSpan (j.drawn delay) = 1 := Nat.mod_eq_of_lt (by omega)
    rw [j.nanos_apply _ positive, j.nanos_apply _ positive, Draw.constant, Draw.constant] at delays
    simp only [Nat.zero_mod, one] at delays
    omega
  · intro single draw other
    refine j.apply_congr fun positive => Fin.ext ?_
    have drawn := (draw (drawSpan (j.drawn delay)) positive).isLt
    have otherDrawn := (other (drawSpan (j.drawn delay)) positive).isLt
    omega

theorem Jitter.isCertain_iff (j : Jitter) (delay : Duration) :
    j.isCertain delay = true ↔ (j.drawn delay).nanos ≤ 1 := by
  cases j with
  | none => exact ⟨fun _ => Nat.zero_le 1, fun _ => rfl⟩
  | full => simp only [isCertain, drawn, decide_eq_true_eq, drawSpan_le_one_iff]
  | equal => simp only [isCertain, drawn, decide_eq_true_eq, drawSpan_le_one_iff]

/-- Whatever a source answers, and however long a delay is, full jitter leaves a delay
below the one without jitter, and zero if that is zero; equal jitter keeps half of it, in
whole nanoseconds, and adds less than that, or leaves it as it is where it has less than
two.  The sum is always a duration, and never above the delay.  The only span that a
source is asked for is one that is not empty, and the delay is certain exactly where that
span is one nanosecond at most or nothing is drawn. -/
theorem jitter_within_delay (delay : Duration) :
    (∀ draw : Draw,
      (if delay.nanos = 0 then (Jitter.full.apply draw delay).nanos = 0
        else (Jitter.full.apply draw delay).nanos < delay.nanos) ∧
      (if delay.nanos < 2 then Jitter.equal.apply draw delay = delay
        else delay.nanos / 2 ≤ (Jitter.equal.apply draw delay).nanos ∧
          (Jitter.equal.apply draw delay).nanos < delay.nanos / 2 + delay.nanos / 2) ∧
      (∀ drawn, draw.below delay.half = some drawn →
        delay.half.add? drawn = some (Jitter.equal.apply draw delay)) ∧
      ∀ j : Jitter, (j.apply draw delay).nanos ≤ delay.nanos) ∧
    ∀ j : Jitter,
      (∀ draw other : Draw,
        (∀ positive : 0 < drawSpan (j.drawn delay), draw (drawSpan (j.drawn delay)) positive =
          other (drawSpan (j.drawn delay)) positive) →
        j.apply draw delay = j.apply other delay) ∧
      ((∀ draw other : Draw, j.apply draw delay = j.apply other delay) ↔
        (j.drawn delay).nanos ≤ 1) ∧
      (j.isCertain delay = true ↔ (j.drawn delay).nanos ≤ 1) := by
  refine ⟨fun draw => ⟨?_, ?_, fun drawn => Jitter.half_add_drawn draw,
      fun j => j.nanos_apply_le draw delay⟩,
    fun j => ⟨fun draw other => j.apply_congr, j.certain_iff delay, j.isCertain_iff delay⟩⟩
  · have kept : Jitter.full.kept delay = 0 := rfl
    have drawn : (Jitter.full.drawn delay).nanos = delay.nanos := rfl
    rcases Jitter.full.apply_cases draw delay with ⟨zero, constant⟩ | ⟨-, below⟩
    · rw [constant]
      split <;> omega
    · split <;> omega
  · have kept : Jitter.equal.kept delay = delay.nanos / 2 := rfl
    have drawn : (Jitter.equal.drawn delay).nanos = delay.nanos / 2 := rfl
    rcases Jitter.equal.apply_cases draw delay with ⟨zero, constant⟩ | ⟨above, below⟩
    · rw [if_pos (by omega)]
      exact constant
    · rw [if_neg (by omega)]
      omega

example :
    let longest : Duration := ⟨durationLimit - 1, by decide⟩
    let last := Draw.constant 18446744073709551614
    drawSpan longest = 18446744073709551615 ∧
      (Jitter.full.apply last longest).nanos = 18446744073709551614 ∧
      (Jitter.equal.apply last longest).nanos = longest.nanos / 2 + 18446744073709551614 ∧
      Jitter.equal.apply last ⟨3, by decide⟩ = ⟨1, by decide⟩ := by
  decide +kernel

end BoundSql
