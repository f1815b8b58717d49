import BoundSql.Proofs.Commits
import BoundSql.Proofs.RetryOutcomes

/-! # Transactions as retried outcomes

A transaction keeps a state and a connection from one attempt to the next, and each
attempt may fail in three places.  For the run as a whole only the outcomes count: it
goes like a run without any state whose attempts come to these outcomes. -/
set_option autoImplicit false
namespace BoundSql

theorem conflicted_ofDriver {α : Type} {e : DriverError} (conflict : e.IsConflict) :
    Conflicted (.error (Failure.ofDriver e) : Except Failure α) := by
  obtain ⟨message, classified⟩ := (ofDriver_conflict_iff e).mpr conflict
  exact ⟨message, congrArg Except.error classified⟩

/-- A rollback that fails hides a conflict. -/
theorem not_conflicted_other {α : Type} (message : String) :
    ¬ Conflicted (.error (.other message) : Except Failure α) := by
  simp [Conflicted]

section Transactions
variable {σ α : Type} (options : TransactionOptions) (replies : Nat → AttemptReplies)
  (body : Nat → σ → Body σ α)

/-- The record of an attempt, in the state and on the connection that the attempts
before it leave. -/
def recordOf (state : σ) (c : Connection) (n : Nat) : AttemptRecord α :=
  transactionAttempt options replies body
    (n, stateBefore (transact options replies body) (state, c) n)

variable (state : σ) (c : Connection)

theorem outcomeOf_transact (n : Nat) :
    outcomeOf (transact options replies body) (state, c) n =
      (recordOf options replies body state c n).course.outcome :=
  outcome_attemptOnce options _ _ _ _

theorem transactionAttempts_eq :
    transactionAttempts options replies body state c =
      (runInTransaction options replies body state c).attempts.map
        (recordOf options replies body state c) := by
  have sequence := attemptsFrom_eq (transact options replies body) (state, c) options
    options.attempts 0 none
  have numbered := congrArg (List.map (transactionAttempt options replies body)) sequence
  rw [List.map_map] at numbered
  rw [runInTransaction_eq_retry]
  exact numbered

/-- A transaction tells what a plain run tells whose attempts come to the outcomes of
its own attempts, and asks for the same delays.  A body that failed and could not be
rolled back ends the run with an error that tells of both; a conflict at the commit is
followed by another attempt if one is left. -/
theorem transaction_refines_retry :
    ∃ (run : RetryRun (σ × Connection) α) (plain : RetryRun Unit α)
        (record : Nat → AttemptRecord α),
      runInTransaction options replies body state c = run ∧
      recordOf options replies body state c = record ∧
      retry options (fun n start => ((record n).course.outcome, start)) () = plain ∧
      run.result = plain.result ∧ run.delays = plain.delays ∧ run.attempts = plain.attempts ∧
      transactionAttempts options replies body state c = run.attempts.map record ∧
      (∀ n, (record n).Follows
        (startText options.isolation options.readOnly options.deferrable)) ∧
      (∀ n ∈ run.attempts, ∀ failure e, (record n).course = .failed failure (.error e) →
        n + 1 ∉ run.attempts ∧ run.result =
          .error (.other (failure.message ++ " (rollback failed: " ++ e.message ++ ")"))) ∧
      (∀ n ∈ run.attempts, ∀ value e, (record n).course = .succeeded value (.error e) →
        e.IsConflict → n + 1 < options.attempts → n + 1 ∈ run.attempts) := by
  let record := recordOf options replies body state c
  let attempt := transact options replies body
  have outcomes : ∀ n, outcomeOf attempt (state, c) n = (record n).course.outcome :=
    outcomeOf_transact options replies body state c
  have loop := runInTransaction_eq_retry options replies body state c
  obtain ⟨attempts, delays, result⟩ :=
    retry_congr attempt options (fun n start => ((record n).course.outcome, start)) (state, c) ()
      outcomes
  rw [← loop] at attempts delays result
  refine ⟨_, _, _, rfl, rfl, rfl, result, delays, attempts,
    transactionAttempts_eq options replies body state c, ?_, ?_, ?_⟩
  · intro n
    exact follows_attemptRecord options _ _ _ _
  · intro n made failure e course
    have outcome := congrArg Course.outcome course
    have free : ¬ Conflicted (outcomeOf attempt (state, c) n) := by
      rw [outcomes, outcome]
      exact not_conflicted_other _
    rw [loop] at made ⊢
    obtain ⟨last, result⟩ := retry_ends_at attempt options (state, c) made free
    refine ⟨last, result.trans ?_⟩
    rw [outcomes, outcome]
    rfl
  · intro n made value e course conflict more
    have outcome : (record n).course.outcome = .error (Failure.ofDriver e) :=
      congrArg Course.outcome course
    have asks : Conflicted (outcomeOf attempt (state, c) n) := by
      rw [outcomes, outcome]
      exact conflicted_ofDriver conflict
    rw [loop] at made ⊢
    exact retry_goes_on attempt options (state, c) made asks more

end Transactions

/-- The body gives up, and the connection is gone when the transaction is to be rolled
back: the run does not end as one that was given up. -/
theorem transaction_refines_retry_lostRollback :
    let options : TransactionOptions := { backoff := some fun _ => .zero }
    let replies : Nat → AttemptReplies := fun n =>
      if n = 0 then { start := .error .running ⟨"40001", "busy", none⟩ } else { rollback := .close }
    let body : Nat → Unit → Body Unit Nat := fun _ _ => .done () (.error .abort)
    let run := runInTransaction options replies body () {}
    let record := recordOf options replies body () {}
    (record 1).course = .failed .abort (.error .closed) ∧
      run.result = .error (.other "transaction aborted (rollback failed: connection closed)") ∧
      run.attempts = [0, 1] ∧ run.delays = [(0, .zero)] ∧
      run.result =
        (retry options (fun n start => ((record n).course.outcome, start)) ()).result := by
  intro options replies body run record
  obtain ⟨_, _, _, rfl, rfl, rfl, plain, delays, attempts, -, -, lost, -⟩ :=
    transaction_refines_retry options replies body () {}
  have course : (record 1).course = .failed .abort (.error .closed) := rfl
  have made : run.attempts = [0, 1] := rfl
  have member : 1 ∈ run.attempts := by simp [made]
  exact ⟨course, (lost 1 member _ _ course).2, made, rfl, plain⟩

end BoundSql
