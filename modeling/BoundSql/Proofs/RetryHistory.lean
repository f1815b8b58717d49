import BoundSql.Transaction.Retry

/-! # The history of a run

A run of attempts keeps the number of each attempt and the state that it found.
Every attempt but the last asks for another one, and the last one settles the
result, or spends the last attempt that was allowed. -/
set_option autoImplicit false
namespace BoundSql

section Histories
variable {σ α : Type} (attempt : Nat → σ → Except Failure α × σ)

/-- The attempts from number `next` on, each with the state it began in. -/
def attemptsFrom : (remaining : Nat) → (next : Nat) → σ → List (Nat × σ)
  | 0, _, _ => []
  | remaining + 1, next, state =>
    (next, state) ::
      match verdict (attempt next state).1 with
      | .done _ => []
      | .again _ => attemptsFrom remaining (next + 1) (attempt next state).2

def AsksAgain (made : Nat × σ) (cause : Failure) : Prop :=
  verdict (attempt made.1 made.2).1 = .again cause

/-- How the last attempt of a run settles its result, where `spent` tells that no
other attempt is allowed. -/
inductive Settles (made : Nat × σ) (spent : Prop) : Except Failure (Option α) → Prop
  | done {result : Except Failure (Option α)}
    (h : verdict (attempt made.1 made.2).1 = .done result) : Settles made spent result
  | exhausted {cause : Failure} (used : spent) (h : AsksAgain attempt made cause) :
    Settles made spent (.error cause)

variable {attempt}

theorem Settles.imp {made : Nat × σ} {spent others : Prop} {result : Except Failure (Option α)}
    (h : Settles attempt made spent result) (weaker : spent → others) :
    Settles attempt made others result := by
  cases h with
  | done outcome => exact .done outcome
  | exhausted used outcome => exact .exhausted (weaker used) outcome

theorem Settles.value_iff {made : Nat × σ} {spent : Prop} {result : Except Failure (Option α)}
    (h : Settles attempt made spent result) {value : α} :
    result = .ok (some value) ↔ verdict (attempt made.1 made.2).1 = .done (.ok (some value)) := by
  cases h with
  | done outcome => rw [outcome, Verdict.done.injEq]
  | exhausted used outcome =>
    rw [show verdict (attempt made.1 made.2).1 = _ from outcome]
    simp

variable (attempt)

/-- A history of attempts and the run that it belongs to. -/
structure History (remaining next : Nat) (run : RetryRun σ α) (earlier : List (Nat × σ))
    (last : Nat × σ) : Prop where
  numbers : (earlier ++ [last]).map Prod.fst = List.range' next (earlier.length + 1)
  attempts : run.attempts = List.range' next (earlier.length + 1)
  bounded : earlier.length + 1 ≤ remaining
  again : ∀ made ∈ earlier, ∃ cause, AsksAgain attempt made cause
  settled : Settles attempt last (earlier.length + 1 = remaining) run.result
  state : run.state = (attempt last.1 last.2).2

variable {attempt}

theorem History.single {remaining next : Nat} {delays : List (Nat × Duration)}
    {result : Except Failure (Option α)} {state : σ} (bounded : 1 ≤ remaining)
    (settled : Settles attempt (next, state) (1 = remaining) result) :
    History attempt remaining next ⟨[next], delays, result, (attempt next state).2⟩ []
      (next, state) :=
  ⟨rfl, rfl, bounded, by simp, settled, rfl⟩

/-- An attempt that asks for another one begins a history that goes on with this one. -/
theorem History.cons {remaining next : Nat} {cause : Failure} {state : σ} {run : RetryRun σ α}
    {earlier : List (Nat × σ)} {last : Nat × σ} {delays : List (Nat × Duration)}
    (asks : AsksAgain attempt (next, state) cause)
    (later : History attempt remaining (next + 1) run earlier last) :
    History attempt (remaining + 1) next ⟨next :: run.attempts, delays, run.result, run.state⟩
      ((next, state) :: earlier) last := by
  obtain ⟨numbers, attempts, bounded, again, settled, left⟩ := later
  have count : ((next, state) :: earlier).length + 1 = earlier.length + 1 + 1 := by simp
  refine ⟨?_, ?_, ?_, ?_, ?_, left⟩
  · rw [count, List.range'_succ, ← numbers]
    rfl
  · rw [count, List.range'_succ, ← attempts]
  · omega
  · exact List.forall_mem_cons.mpr ⟨⟨cause, asks⟩, again⟩
  · exact settled.imp fun spent => by rw [count, spent]

theorem attemptsFrom_of_done {next : Nat} {state : σ} {result : Except Failure (Option α)}
    (outcome : verdict (attempt next state).1 = .done result) (remaining : Nat) :
    attemptsFrom attempt (remaining + 1) next state = [(next, state)] := by
  simp only [attemptsFrom, outcome]

theorem attemptsFrom_of_again {next : Nat} {state : σ} {cause : Failure}
    (outcome : verdict (attempt next state).1 = .again cause) (remaining : Nat) :
    attemptsFrom attempt (remaining + 1) next state =
      (next, state) :: attemptsFrom attempt remaining (next + 1) (attempt next state).2 := by
  simp only [attemptsFrom, outcome]

variable (attempt)

/-- A run that has attempts left makes one at least, and all but the last ask for
another one. -/
theorem exists_history (options : TransactionOptions) (remaining next : Nat)
    (failure : Option Failure) (state : σ) :
    ∃ earlier last, attemptsFrom attempt (remaining + 1) next state = earlier ++ [last] ∧
      History attempt (remaining + 1) next
        (retryFrom options attempt (remaining + 1) next failure state) earlier last := by
  induction remaining generalizing next failure state with
  | zero =>
    rw [retryFrom]
    cases outcome : verdict (attempt next state).1 with
    | done result =>
      exact ⟨[], (next, state), attemptsFrom_of_done outcome 0,
        .single (Nat.le_refl _) (.done outcome)⟩
    | again cause =>
      exact ⟨[], (next, state), attemptsFrom_of_again outcome 0,
        .single (Nat.le_refl _) (.exhausted rfl outcome)⟩
  | succ remaining ih =>
    rw [retryFrom]
    cases outcome : verdict (attempt next state).1 with
    | done result =>
      exact ⟨[], (next, state), attemptsFrom_of_done outcome _,
        .single (Nat.le_add_left _ _) (.done outcome)⟩
    | again cause =>
      obtain ⟨earlier, last, made, later⟩ := ih (next + 1) (some cause) (attempt next state).2
      refine ⟨(next, state) :: earlier, last, ?_, .cons outcome later⟩
      rw [attemptsFrom_of_again outcome, made, List.cons_append]

/-- What each attempt adds to the state is there at the end, in the order of the
attempts. -/
theorem collected_retryFrom {β : Type} (view : σ → List β) (added : Nat × σ → List β)
    (step : ∀ number state, view (attempt number state).2 = view state ++ added (number, state))
    (options : TransactionOptions) (remaining next : Nat) (failure : Option Failure) (state : σ) :
    view (retryFrom options attempt remaining next failure state).state =
      view state ++ (attemptsFrom attempt remaining next state).flatMap added := by
  induction remaining generalizing next failure state with
  | zero => simp [retryFrom, attemptsFrom]
  | succ remaining ih =>
    rw [retryFrom, attemptsFrom, List.flatMap_cons]
    cases outcome : verdict (attempt next state).1 with
    | done result => simp [step]
    | again cause =>
      simp only
      rw [ih, step, List.append_assoc]

end Histories

end BoundSql
