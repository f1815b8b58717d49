import BoundSql.Proofs.RetryHistory

/-! # Runs read off their outcomes

Every attempt has an outcome, whether it is made or not: what it comes to in the state
that the attempts before it leave.  A run makes its attempts up to the first outcome
that is no conflict, or up to the last attempt that is allowed; that outcome settles
the result, and the backoff is asked after each attempt before it. -/
set_option autoImplicit false
namespace BoundSql

section Outcomes
variable {σ α : Type}

def Conflicted (outcome : Except Failure α) : Prop :=
  ∃ message, outcome = .error (.serializationFailure message)

/-- What a run tells when its last attempt comes to some outcome. -/
def told : Except Failure α → Except Failure (Option α)
  | .ok value => .ok (some value)
  | .error .abort => .ok none
  | .error failure => .error failure

theorem conflicted_of_again {outcome : Except Failure α} {cause : Failure}
    (h : verdict outcome = .again cause) : Conflicted outcome ∧ told outcome = .error cause := by
  match outcome with
  | .ok value => simp [verdict] at h
  | .error failure =>
    cases failure with
    | serializationFailure message =>
      have caused : Failure.serializationFailure message = cause := Verdict.again.inj h
      exact ⟨⟨message, rfl⟩, congrArg Except.error caused⟩
    | _ => simp [verdict, Failure.isSerializationFailure] at h

theorem told_of_done {outcome : Except Failure α} {result : Except Failure (Option α)}
    (h : verdict outcome = .done result) : ¬ Conflicted outcome ∧ told outcome = result := by
  match outcome with
  | .ok value => exact ⟨by simp [Conflicted], Verdict.done.inj h⟩
  | .error failure =>
    cases failure with
    | serializationFailure message => simp [verdict, Failure.isSerializationFailure] at h
    | _ => exact ⟨by simp [Conflicted], Verdict.done.inj h⟩

theorem told_eq_noAttempts {outcome : Except Failure α} (h : told outcome = .error noAttempts) :
    outcome = .error noAttempts := by
  match outcome with
  | .ok value => simp [told] at h
  | .error failure =>
    cases failure with
    | abort => simp [told] at h
    | _ => exact congrArg Except.error (Except.error.inj h)

def delaysAfter (options : TransactionOptions) (numbers : List Nat) : List (Nat × Duration) :=
  match options.backoff with
  | none => []
  | some backoff => numbers.map fun n => (n, backoff n)

/-- With attempts up to a limit, the last one is the first that is no conflict, or the
last of all. -/
structure EndsAt (limit : Nat) (outcome : Nat → Except Failure α) (last : Nat) : Prop where
  allowed : last < limit
  conflicts : ∀ n < last, Conflicted (outcome n)
  ends : last + 1 = limit ∨ ¬ Conflicted (outcome last)

section Ends
variable {limit last n : Nat} {outcome : Nat → Except Failure α}

/-- No attempt is made behind one that is no conflict. -/
theorem EndsAt.eq_of_not_conflicted (h : EndsAt limit outcome last) (made : n ≤ last)
    (free : ¬ Conflicted (outcome n)) : n = last := by
  rcases Nat.lt_or_eq_of_le made with earlier | equal
  · exact absurd (h.conflicts n earlier) free
  · exact equal

/-- Behind a conflict another attempt is made if one is left. -/
theorem EndsAt.lt_of_conflicted (h : EndsAt limit outcome last) (made : n ≤ last)
    (conflict : Conflicted (outcome n)) (more : n + 1 < limit) : n < last := by
  rcases Nat.lt_or_eq_of_le made with earlier | rfl
  · exact earlier
  · rcases h.ends with limited | free
    · omega
    · exact absurd conflict free

theorem EndsAt.unique {other : Nat} (h : EndsAt limit outcome last)
    (k : EndsAt limit outcome other) : last = other := by
  have bound := h.allowed
  have otherBound := k.allowed
  rcases Nat.lt_trichotomy last other with before | equal | behind
  · have := h.lt_of_conflicted (Nat.le_refl last) (k.conflicts last before) (by omega)
    omega
  · exact equal
  · have := k.lt_of_conflicted (Nat.le_refl other) (h.conflicts other behind) (by omega)
    omega

end Ends

variable (attempt : Nat → σ → Except Failure α × σ)

section Sequence
variable (state : σ)

/-- The state that an attempt finds when all before it have been made. -/
def stateBefore : Nat → σ
  | 0 => state
  | n + 1 => (attempt n (stateBefore n)).2

def outcomeOf (n : Nat) : Except Failure α := (attempt n (stateBefore attempt state n)).1

theorem attemptsFrom_eq (options : TransactionOptions) (remaining next : Nat)
    (failure : Option Failure) :
    attemptsFrom attempt remaining next (stateBefore attempt state next) =
      (retryFrom options attempt remaining next failure
        (stateBefore attempt state next)).attempts.map
          fun n => (n, stateBefore attempt state n) := by
  induction remaining generalizing next failure with
  | zero => rfl
  | succ remaining ih =>
    rw [attemptsFrom, retryFrom]
    cases verdict (attempt next (stateBefore attempt state next)).1 with
    | done result => rfl
    | again cause => exact congrArg (List.cons _) (ih (next + 1) (some cause))

end Sequence

theorem attempts_retryFrom_ne_nil (options : TransactionOptions) (remaining next : Nat)
    (failure : Option Failure) (state : σ) :
    (retryFrom options attempt (remaining + 1) next failure state).attempts ≠ [] := by
  rw [retryFrom]
  split <;> simp

/-- The backoff is asked after every attempt but the last. -/
theorem delays_retryFrom (options : TransactionOptions) (remaining next : Nat)
    (failure : Option Failure) (state : σ) :
    (retryFrom options attempt remaining next failure state).delays =
      delaysAfter options
        (retryFrom options attempt remaining next failure state).attempts.dropLast := by
  have nothing : delaysAfter options [] = [] := by
    unfold delaysAfter
    split <;> rfl
  induction remaining generalizing next failure state with
  | zero => exact nothing.symm
  | succ remaining ih =>
    rw [retryFrom]
    cases verdict (attempt next state).1 with
    | done result => exact nothing.symm
    | again cause =>
      cases remaining with
      | zero => exact nothing.symm
      | succ remaining =>
        have more := attempts_retryFrom_ne_nil attempt options remaining (next + 1) (some cause)
          (attempt next state).2
        simp only [ih, List.dropLast_cons_of_ne_nil more]
        unfold pauseAfter delaysAfter
        cases options.backoff <;> rfl

theorem Settles.told {made : Nat × σ} {spent : Prop} {result : Except Failure (Option α)}
    (h : Settles attempt made spent result) :
    result = told (attempt made.1 made.2).1 ∧ (spent ∨ ¬ Conflicted (attempt made.1 made.2).1) := by
  cases h with
  | done outcome =>
    obtain ⟨free, read⟩ := told_of_done outcome
    exact ⟨read.symm, Or.inr free⟩
  | exhausted used again =>
    obtain ⟨-, read⟩ := conflicted_of_again again
    exact ⟨read.symm, Or.inl used⟩

/-- The run as a whole, read off the outcomes. -/
theorem exists_retry_eq (options : TransactionOptions) (state : σ) :
    ∃ last, EndsAt options.attempts (outcomeOf attempt state) last ∧
      retry options attempt state =
        ⟨List.range (last + 1), delaysAfter options (List.range last),
          told (outcomeOf attempt state last), stateBefore attempt state (last + 1)⟩ := by
  obtain ⟨remaining, count⟩ :=
    Nat.exists_eq_succ_of_ne_zero (Nat.pos_iff_ne_zero.mp options.attempts_pos)
  obtain ⟨earlier, last, made, history⟩ :=
    exists_history attempt options remaining 0 none state
  rw [← Nat.succ_eq_add_one, ← count] at made history
  obtain ⟨-, attempts, allowed, again, settled, left⟩ := history
  generalize earlier.length = k at *
  rw [← List.range_eq_range'] at attempts
  -- the attempts made are the first ones of the sequence
  have sequence : earlier ++ [last] =
      (List.range (k + 1)).map fun n => (n, stateBefore attempt state n) := by
    rw [← made, ← attempts]
    exact attemptsFrom_eq attempt state options options.attempts 0 none
  rw [List.range_succ, List.map_append] at sequence
  obtain ⟨rfl, final⟩ := List.append_inj' sequence rfl
  obtain rfl := List.singleton_inj.mp final
  obtain ⟨result, ends⟩ := settled.told
  refine ⟨k, ⟨allowed, ?_, ends⟩, ?_⟩
  · intro n earlier
    obtain ⟨cause, asks⟩ :=
      again (n, stateBefore attempt state n)
        (List.mem_map.mpr ⟨n, List.mem_range.mpr earlier, rfl⟩)
    exact (conflicted_of_again asks).1
  · have delays := delays_retryFrom attempt options options.attempts 0 none state
    rw [attempts, List.range_succ, List.dropLast_concat] at delays
    calc retry options attempt state
        = ⟨(retry options attempt state).attempts, (retry options attempt state).delays,
            (retry options attempt state).result, (retry options attempt state).state⟩ := rfl
      _ = _ := by
        rw [retry, attempts, delays, result, left]
        rfl

/-- Runs whose attempts come to the same outcomes make the same attempts, ask for the
same delays and tell the same. -/
theorem retry_congr {τ : Type} (options : TransactionOptions)
    (other : Nat → τ → Except Failure α × τ) (state : σ) (start : τ)
    (agree : ∀ n, outcomeOf attempt state n = outcomeOf other start n) :
    (retry options attempt state).attempts = (retry options other start).attempts ∧
      (retry options attempt state).delays = (retry options other start).delays ∧
      (retry options attempt state).result = (retry options other start).result := by
  obtain ⟨last, ends, run⟩ := exists_retry_eq attempt options state
  obtain ⟨otherLast, otherEnds, otherRun⟩ := exists_retry_eq other options start
  rw [← funext agree] at otherEnds otherRun
  rw [run, otherRun, ends.unique otherEnds]
  exact ⟨rfl, rfl, rfl⟩

/-- No attempt follows one that is no conflict, and the run tells what it came to. -/
theorem retry_ends_at (options : TransactionOptions) (state : σ) {n : Nat}
    (made : n ∈ (retry options attempt state).attempts)
    (free : ¬ Conflicted (outcomeOf attempt state n)) :
    n + 1 ∉ (retry options attempt state).attempts ∧
      (retry options attempt state).result = told (outcomeOf attempt state n) := by
  obtain ⟨last, ends, run⟩ := exists_retry_eq attempt options state
  rw [run] at made ⊢
  obtain rfl := ends.eq_of_not_conflicted (Nat.le_of_lt_succ (List.mem_range.mp made)) free
  exact ⟨by simp, rfl⟩

theorem retry_goes_on (options : TransactionOptions) (state : σ) {n : Nat}
    (made : n ∈ (retry options attempt state).attempts)
    (asks : Conflicted (outcomeOf attempt state n)) (more : n + 1 < options.attempts) :
    n + 1 ∈ (retry options attempt state).attempts := by
  obtain ⟨last, ends, run⟩ := exists_retry_eq attempt options state
  rw [run, List.mem_range] at made ⊢
  have later := ends.lt_of_conflicted (Nat.le_of_lt_succ made) asks more
  omega

end Outcomes

theorem TransactionOptions.attempts_eq (o : TransactionOptions) :
    (o.attempts : Int) = if 0 < o.maxAttempts.toInt then o.maxAttempts.toInt else 10 := by
  unfold attempts
  split <;> omega

/-- Attempts are counted far below the limit of a word. -/
theorem TransactionOptions.attempts_lt (o : TransactionOptions) : o.attempts < UInt32.size := by
  have bound := o.maxAttempts.toInt_lt
  have count := o.attempts_eq
  have size : UInt32.size = 4294967296 := rfl
  split at count <;> omega

/-- A run makes the attempts from zero to the first one that is no conflict, or to the
last one allowed: as many as were asked for, or ten.  The backoff is asked after each
of them but the last, whose outcome is the result; that no attempt was made is never
told unless an attempt says so itself. -/
theorem retry_stops_at_first_end {σ α : Type} (options : TransactionOptions)
    (attempt : Nat → σ → Except Failure α × σ) (state : σ) :
    (options.attempts : Int) =
        (if 0 < options.maxAttempts.toInt then options.maxAttempts.toInt else 10) ∧
      ∃ last, EndsAt options.attempts (outcomeOf attempt state) last ∧
        retry options attempt state =
          ⟨List.range (last + 1), delaysAfter options (List.range last),
            told (outcomeOf attempt state last), stateBefore attempt state (last + 1)⟩ ∧
        (∀ n ∈ List.range (last + 1), n + 1 < UInt32.size) ∧
        ((retry options attempt state).result = .error noAttempts →
          outcomeOf attempt state last = .error noAttempts) := by
  obtain ⟨last, ends, run⟩ := exists_retry_eq attempt options state
  refine ⟨options.attempts_eq, last, ends, run, ?_, ?_⟩
  · intro n member
    have := List.mem_range.mp member
    have := ends.allowed
    have := options.attempts_lt
    omega
  · intro nothing
    rw [run] at nothing
    exact told_eq_noAttempts nothing

example (backoff : Nat → Duration) :
    let run := retry { maxAttempts := 3, backoff := some backoff }
      (fun n (_ : Unit) => (if n < 2 then .error (.serializationFailure "busy") else .ok 7, ())) ()
    run.attempts = [0, 1, 2] ∧ run.delays = [(0, backoff 0), (1, backoff 1)] ∧
      run.result = .ok (some 7) := ⟨rfl, rfl, rfl⟩

end BoundSql
