/-! # Durations

A duration is a number of nanoseconds below `2 ^ 64` seconds.  Arithmetic that
would leave this range has no result. -/
set_option autoImplicit false
namespace BoundSql

def durationLimit : Nat := 18446744073709551616000000000

structure Duration where
  nanos : Nat
  nanos_lt : nanos < durationLimit
deriving DecidableEq

@[ext]
theorem Duration.ext {a b : Duration} (h : a.nanos = b.nanos) : a = b := by
  cases a
  cases b
  cases h
  rfl

def Duration.ofNanos? (n : Nat) : Option Duration :=
  if small : n < durationLimit then some ⟨n, small⟩ else none

def Duration.ofParts? (seconds nanos : Nat) : Option Duration :=
  Duration.ofNanos? (1000000000 * seconds + nanos)

def Duration.ofMillis (n : UInt32) : Duration :=
  ⟨1000000 * n.toNat, by have := n.toNat_lt; simp only [durationLimit]; omega⟩

def Duration.ofWord (n : UInt64) : Duration :=
  ⟨n.toNat, by have := n.toNat_lt; simp only [durationLimit]; omega⟩

def Duration.zero : Duration := ⟨0, by decide⟩

def Duration.seconds (d : Duration) : Nat := d.nanos / 1000000000

def Duration.subsecond (d : Duration) : Nat := d.nanos % 1000000000

def Duration.mul? (d : Duration) (k : Nat) : Option Duration := Duration.ofNanos? (d.nanos * k)

def Duration.add? (a b : Duration) : Option Duration := Duration.ofNanos? (a.nanos + b.nanos)

def Duration.cappedBy (d cap : Duration) : Duration := if d.nanos ≤ cap.nanos then d else cap

def Duration.half (d : Duration) : Duration :=
  ⟨d.nanos / 2, Nat.lt_of_le_of_lt (Nat.div_le_self _ _) d.nanos_lt⟩

@[simp]
theorem Duration.nanos_half (d : Duration) : d.half.nanos = d.nanos / 2 := rfl

@[simp]
theorem Duration.nanos_cappedBy (d cap : Duration) :
    (d.cappedBy cap).nanos = min d.nanos cap.nanos := by
  unfold Duration.cappedBy
  split <;> omega

@[simp]
theorem Duration.ofNanos?_eq_some_iff {n : Nat} {d : Duration} :
    Duration.ofNanos? n = some d ↔ d.nanos = n := by
  obtain ⟨nanos, nanos_lt⟩ := d
  unfold ofNanos?
  split
  · simp [eq_comm]
  · simp only [reduceCtorEq, false_iff]
    omega

@[simp]
theorem Duration.mul?_eq_some_iff {d product : Duration} {k : Nat} :
    d.mul? k = some product ↔ product.nanos = d.nanos * k := Duration.ofNanos?_eq_some_iff

@[simp]
theorem Duration.add?_eq_some_iff {a b sum : Duration} :
    a.add? b = some sum ↔ sum.nanos = a.nanos + b.nanos := Duration.ofNanos?_eq_some_iff

/-- What is no duration is above all of them. -/
theorem Duration.lt_of_ofNanos?_eq_none {n : Nat} (h : Duration.ofNanos? n = none)
    (d : Duration) : d.nanos < n := by
  have bound := d.nanos_lt
  unfold ofNanos? at h
  split at h
  · cases h
  · omega

/-- The durations are the pairs of a word of seconds and nanoseconds short of a second. -/
theorem Duration.exists_parts_iff {seconds nanos : Nat} :
    (∃ d : Duration, d.seconds = seconds ∧ d.subsecond = nanos) ↔
      seconds < 18446744073709551616 ∧ nanos < 1000000000 := by
  constructor
  · rintro ⟨d, rfl, rfl⟩
    have bound := d.nanos_lt
    simp only [durationLimit, Duration.seconds, Duration.subsecond] at *
    omega
  · intro parts
    refine ⟨⟨1000000000 * seconds + nanos, ?_⟩, ?_, ?_⟩
    all_goals simp only [durationLimit, Duration.seconds, Duration.subsecond]
    all_goals omega

end BoundSql
