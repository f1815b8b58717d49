import BoundSql.Proofs.TransactionOutcomes
import BoundSql.Transaction.Steps

/-! # What failures tell of the errors behind them

An error of the server becomes a failure by its code, wherever it surfaces: at a
statement, at the start of a transaction or at its commit.  Four codes are told apart.
A unique violation keeps the name of its constraint, or a word in place of a name where
the server gave none, which cannot be told from that name.  An error that is not of the
server stays what the driver reported, and no attempt follows it. -/
set_option autoImplicit false
namespace BoundSql

def classifiedCodes : List String := ["23505", "23503", "23514", "40001"]

def ServerError.constraintName (e : ServerError) : String := e.constraint.getD "unknown"

/-- What an error of the server becomes, code by code. -/
inductive ServerError.Becomes (e : ServerError) : Failure → Prop
  | uniqueViolation (code : e.code = "23505") :
    Becomes e (.uniqueViolation e.constraintName e.message)
  | foreignKeyViolation (code : e.code = "23503") :
    Becomes e (.foreignKeyViolation (e.constraintName ++ ": " ++ e.message))
  | checkViolation (code : e.code = "23514") :
    Becomes e (.checkViolation (e.constraintName ++ ": " ++ e.message))
  | serializationFailure (code : e.code = "40001") : Becomes e (.serializationFailure e.message)
  | query (other : e.code ∉ classifiedCodes) : Becomes e (.query (.server e))

theorem ServerError.becomes_ofDriver (e : ServerError) :
    e.Becomes (Failure.ofDriver (.server e)) := by
  rw [Failure.ofDriver, classify?]
  by_cases unique : e.code = "23505"
  · simpa [unique, constraintName] using Becomes.uniqueViolation unique
  · by_cases foreign : e.code = "23503"
    · simpa [foreign, constraintName] using Becomes.foreignKeyViolation foreign
    · by_cases check : e.code = "23514"
      · simpa [check, constraintName] using Becomes.checkViolation check
      · by_cases conflict : e.code = "40001"
        · simpa [conflict] using Becomes.serializationFailure conflict
        · have other : e.code ∉ classifiedCodes := by
            simp [classifiedCodes, unique, foreign, check, conflict]
          simpa [unique, foreign, check, conflict] using Becomes.query other

section Becoming
variable {e : ServerError} {f : Failure}

theorem ServerError.Becomes.isSerializationFailure_iff (h : e.Becomes f) :
    f.isSerializationFailure = true ↔ e.code = "40001" := by
  cases h with
  | query other =>
    have apart : e.code ≠ "40001" := fun equal => other (by simp [equal, classifiedCodes])
    simp [Failure.isSerializationFailure, apart]
  | _ code => simp [Failure.isSerializationFailure, code]

theorem ServerError.Becomes.isUniqueViolation_iff (h : e.Becomes f) (wanted : Option String) :
    f.isUniqueViolation wanted = true ↔
      e.code = "23505" ∧ ∀ name, wanted = some name → name = e.constraintName := by
  cases h with
  | uniqueViolation code => cases wanted <;> simp [Failure.isUniqueViolation, code]
  | query other =>
    have apart : e.code ≠ "23505" := fun equal => other (by simp [equal, classifiedCodes])
    simp [Failure.isUniqueViolation, apart]
  | _ code => simp [Failure.isUniqueViolation, code]

theorem ServerError.Becomes.isNotFound (h : e.Becomes f) : f.isNotFound = false := by
  cases h <;> rfl

theorem ServerError.Becomes.eq_query (h : e.Becomes f) (other : e.code ∉ classifiedCodes) :
    f = .query (.server e) := by
  cases h with
  | query _ => rfl
  | _ code => exact absurd (by simp [code, classifiedCodes]) other

/-- Asked for a name, a failure says whether the server reported a unique violation of that
constraint, except for one without a name that is asked for by the word in its place. -/
theorem ServerError.Becomes.isUniqueViolation_some_iff (h : e.Becomes f) (name : String) :
    (f.isUniqueViolation (some name) = true ↔ e.code = "23505" ∧ e.constraint = some name) ↔
      ¬ (e.code = "23505" ∧ e.constraint = none ∧ name = "unknown") := by
  rw [h.isUniqueViolation_iff, constraintName]
  cases e.constraint with
  | none => simp
  | some reported => simp [eq_comm]

end Becoming

/-- Outcomes in which an error of the driver surfaces: a query that is run for its rows or
for the number of rows touched, a body that ends with a step of its own, an attempt that
cannot start its transaction, and a transaction whose commit fails. -/
inductive Surfaces (d : DriverError) : {α : Type} → Except Failure α → Prop
  | rows (q : Query) (reply : Reply) (c : Connection)
    (sent : (c.send q.sql q.params reply).1 = .error d) :
    Surfaces d (q.run Reading.rows reply c).1
  | affected (q : Query) (reply : Reply) (c : Connection)
    (sent : (c.send q.sql q.params reply).1 = .error d) :
    Surfaces d (q.run Reading.affected reply c).1
  | step {α : Type} (q : Query) (rest : List (Step Nat)) (ending : Except Failure α)
    (record : StepRecord Nat) (reply : Reply) (replies : List Reply) (c : Connection)
    (sent : (c.send q.sql q.params reply).1 = .error d) :
    Surfaces d ((Body.ofSteps ending (⟨q.sql, q.params, Reading.affected, false⟩ :: rest)
      record).run (reply :: replies) c).1.1
  | start {σ α : Type} (options : TransactionOptions) (replies : AttemptReplies)
    (body : σ → Body σ α) (state : σ) (c : Connection)
    (refused : (c.command options.startCommand replies.start).1 = .error d) :
    Surfaces d (attemptOnce options replies body state c).1
  | commit {α : Type} (value : α) (replies : AttemptReplies) (c : Connection)
    (refused : (c.command "COMMIT" replies.commit).1 = .error d) :
    Surfaces d (finish replies (.ok value) c).1

theorem Surfaces.eq {d : DriverError} {α : Type} {outcome : Except Failure α}
    (h : Surfaces d outcome) : outcome = .error (Failure.ofDriver d) := by
  cases h with
  | rows q reply c sent | affected q reply c sent =>
    rw [Query.run, sent]
    rfl
  | step q rest ending record reply replies c sent =>
    rw [Body.ofSteps, Body.run, List.headD_cons, sent]
    rfl
  | start options replies body state c refused => rw [attemptOnce, refused]
  | commit value replies c refused => rw [finish, refused]

theorem ofDriver_of_not_server {d : DriverError} (other : ∀ e, d ≠ .server e) :
    Failure.ofDriver d = .query d := by
  cases d with
  | server e => exact absurd rfl (other e)
  | closed | unsendable => rfl

theorem not_conflicted_query {α : Type} (d : DriverError) :
    ¬ Conflicted (.error (.query d) : Except Failure α) := by
  simp [Conflicted]

section Transactions
variable {α : Type}

/-- The start or the commit of a transaction meets the error, or its body fails with it. -/
def Course.Meets (d : DriverError) : Course α → Prop
  | .unstarted cause => cause = d
  | .succeeded _ commit => commit = .error d
  | .failed failure _ => failure = Failure.ofDriver d

/-- The failure of such an attempt, which tells of a rollback that fails too. -/
def Course.FailsWith (failure : Failure) (course : Course α) : Prop :=
  course.outcome = .error failure ∨
    ∃ e, course = .failed failure (.error e) ∧ course.outcome =
      .error (.other (failure.message ++ " (rollback failed: " ++ e.message ++ ")"))

theorem Course.Meets.failsWith {d : DriverError} {course : Course α} (h : course.Meets d) :
    course.FailsWith (Failure.ofDriver d) := by
  match course with
  | .unstarted cause =>
    obtain rfl : cause = d := h
    exact Or.inl rfl
  | .succeeded value commit =>
    obtain rfl : commit = .error d := h
    exact Or.inl rfl
  | .failed failure (.ok ()) =>
    obtain rfl : failure = Failure.ofDriver d := h
    exact Or.inl rfl
  | .failed failure (.error e) =>
    obtain rfl : failure = Failure.ofDriver d := h
    exact Or.inr ⟨e, rfl, rfl⟩

end Transactions

/-- Wherever an error of the driver surfaces, it is told for what it is.  One of the server
answers by its code, and a unique violation by the constraint that the server reported,
exactly where it is not one without a name that is asked for by the word in its place.  Any
other error is told as the driver reported it, and the attempt that meets it is the last
one, of a plain run and of a transaction. -/
theorem failures_tell_errors (d : DriverError) :
    (∀ e : ServerError, d = .server e →
      ∀ {α : Type} (outcome : Except Failure α), Surfaces d outcome → ∃ f, outcome = .error f ∧
        (f.isSerializationFailure = true ↔ e.code = "40001") ∧
        (f.isUniqueViolation none = true ↔ e.code = "23505") ∧
        (∀ name, (f.isUniqueViolation (some name) = true ↔
            e.code = "23505" ∧ e.constraint = some name) ↔
          ¬ (e.code = "23505" ∧ e.constraint = none ∧ name = "unknown")) ∧
        f.isNotFound = false ∧
        (e.code ∉ ["23505", "23503", "23514", "40001"] → f = .query (.server e))) ∧
    ((∀ e, d ≠ .server e) →
      (∀ {α : Type} (outcome : Except Failure α), Surfaces d outcome →
        outcome = .error (.query d)) ∧
      (∀ {σ α : Type} (options : TransactionOptions) (attempt : Nat → σ → Except Failure α × σ)
          (state : σ), ∀ n ∈ (retry options attempt state).attempts,
        outcomeOf attempt state n = .error (.query d) →
          n + 1 ∉ (retry options attempt state).attempts ∧
            (retry options attempt state).result = .error (.query d)) ∧
      ∀ {σ α : Type} (options : TransactionOptions) (replies : Nat → AttemptReplies)
          (body : Nat → σ → Body σ α) (state : σ) (c : Connection),
        let run := runInTransaction options replies body state c
        ∀ n ∈ run.attempts, (recordOf options replies body state c n).course.Meets d →
          n + 1 ∉ run.attempts ∧
            (run.result = .error (.query d) ∨
              ∃ e, (recordOf options replies body state c n).course =
                  .failed (.query d) (.error e) ∧
                run.result = .error (.other ((Failure.query d).message ++
                  " (rollback failed: " ++ e.message ++ ")")))) := by
  refine ⟨fun e server α outcome surfaces => ?_, fun other => ⟨fun outcome surfaces => ?_, ?_, ?_⟩⟩
  · subst server
    have becomes := e.becomes_ofDriver
    refine ⟨_, surfaces.eq, becomes.isSerializationFailure_iff, ?_,
      becomes.isUniqueViolation_some_iff, becomes.isNotFound, becomes.eq_query⟩
    simpa using becomes.isUniqueViolation_iff none
  · rw [surfaces.eq, ofDriver_of_not_server other]
  · intro σ α options attempt state n made outcome
    have free : ¬ Conflicted (outcomeOf attempt state n) := by
      rw [outcome]
      exact not_conflicted_query d
    have last := retry_ends_at attempt options state made free
    rw [outcome] at last
    exact last
  · intro σ α options replies body state c run n made meets
    have loop := runInTransaction_eq_retry options replies body state c
    simp only [run, loop] at made ⊢
    have outcome := outcomeOf_transact options replies body state c n
    have fails := meets.failsWith
    rw [ofDriver_of_not_server other, Course.FailsWith, ← outcome] at fails
    have free : ¬ Conflicted (outcomeOf (transact options replies body) (state, c) n) := by
      rcases fails with plain | ⟨e, -, both⟩
      · rw [plain]
        exact not_conflicted_query d
      · rw [both]
        exact not_conflicted_other _
    obtain ⟨last, result⟩ :=
      retry_ends_at (transact options replies body) options (state, c) made free
    refine ⟨last, ?_⟩
    rcases fails with plain | ⟨e, course, both⟩
    · rw [plain] at result
      exact Or.inl result
    · rw [both] at result
      exact Or.inr ⟨e, course, result⟩

theorem failures_tell_errors_takenName :
    let e : ServerError := ⟨"23505", "duplicate key", some "users_email_key"⟩
    let q : Query := ⟨"insert into users", []⟩
    let outcome := (q.run Reading.affected (.error .running e) {}).1
    Surfaces (.server e) outcome ∧ ∃ f, outcome = .error f ∧
      f.isUniqueViolation (some "users_email_key") = true ∧
      f.isUniqueViolation (some "unknown") = false ∧ f.isSerializationFailure = false := by
  intro e q outcome
  have sendable : isSendable q.sql = true := by decide +kernel
  have surfaces : Surfaces (.server e) outcome :=
    .affected q _ _ (by simp [Connection.send, sendable])
  obtain ⟨f, failed, conflict, -, unique, -, -⟩ :=
    (failures_tell_errors (.server e)).1 e rfl outcome surfaces
  have told (name : String) :
      f.isUniqueViolation (some name) = true ↔
        e.code = "23505" ∧ e.constraint = some name :=
    (unique name).mpr fun exception => absurd exception.2.1 (by decide)
  refine ⟨surfaces, f, failed, ?_, ?_, ?_⟩
  · exact (told "users_email_key").mpr (by decide)
  · rw [Bool.eq_false_iff, Ne, told]
    decide
  · rw [Bool.eq_false_iff, Ne, conflict]
    decide

/-- A unique violation without the name of its constraint is taken for one of a constraint
that is called by the word in its place. -/
theorem nameless_constraint_taken_for_unknown :
    let e : ServerError := ⟨"23505", "duplicate key", none⟩
    let q : Query := ⟨"insert into users", []⟩
    let outcome := (q.run Reading.affected (.error .running e) {}).1
    e.constraint ≠ some "unknown" ∧
      outcome = .error (.uniqueViolation "unknown" "duplicate key") ∧
      (Failure.uniqueViolation "unknown" "duplicate key").isUniqueViolation (some "unknown") =
        true := by
  refine ⟨by decide, ?_, by decide⟩
  rfl

end BoundSql
