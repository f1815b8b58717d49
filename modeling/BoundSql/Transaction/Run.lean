import BoundSql.Execution
import BoundSql.Transaction.Retry

/-! # Transactions

A transaction is started, its body runs, and it is committed if the body
succeeds and rolled back if it fails.  The whole is an attempt that is retried
like any other.  A body sends statements, each of which may depend on the
reports before it; it keeps a state of its own from one attempt to the next. -/
set_option autoImplicit false
namespace BoundSql

/-- The body of a transaction. -/
inductive Body (σ α : Type)
  | done (state : σ) (outcome : Except Failure α)
  | send (sql : String) (params : List Value) (next : Except DriverError Answer → Body σ α)

structure AttemptReplies where
  start : Reply := .ofTag ""
  statements : List Reply := []
  commit : Reply := .ofTag ""
  rollback : Reply := .ofTag ""

/-- Runs a body; statements beyond the replies are answered without rows. -/
def Body.run {σ α : Type} : Body σ α → List Reply → Connection →
    (Except Failure α × σ) × Connection
  | .done state outcome, _, c => ((outcome, state), c)
  | .send sql params next, replies, c =>
    let sent := c.send sql params (replies.headD (.ofTag ""))
    (next sent.1).run replies.tail sent.2

/-- A failure of the rollback hides nothing: both are told. -/
def rollbackFailed (failure : Failure) (e : DriverError) : Failure :=
  .other (failure.message ++ " (rollback failed: " ++ e.message ++ ")")

def finish {α : Type} (replies : AttemptReplies) (outcome : Except Failure α) (c : Connection) :
    Except Failure α × Connection :=
  match outcome with
  | .ok value =>
    let ended := c.command "COMMIT" replies.commit
    match ended.1 with
    | .ok () => (.ok value, ended.2)
    | .error e => (.error (Failure.ofDriver e), ended.2)
  | .error failure =>
    let ended := c.command "ROLLBACK" replies.rollback
    match ended.1 with
    | .ok () => (.error failure, ended.2)
    | .error e => (.error (rollbackFailed failure e), ended.2)

/-- One attempt.  Where the start fails the driver makes sure that nothing is
left open, whatever the reply to that is. -/
def attemptOnce {σ α : Type} (options : TransactionOptions) (replies : AttemptReplies)
    (body : σ → Body σ α) (state : σ) (c : Connection) : Except Failure α × σ × Connection :=
  let started := c.command options.startCommand replies.start
  match started.1 with
  | .error e =>
    (.error (Failure.ofDriver e), state, (started.2.command "ROLLBACK" replies.rollback).2)
  | .ok () =>
    let through := (body state).run replies.statements started.2
    let ended := finish replies through.1.1 through.2
    (ended.1, through.1.2, ended.2)

/-- Makes the transactions from number `next` on, as many as remain.  Both the body and
the replies may differ between attempts. -/
def transactFrom {σ α : Type} (options : TransactionOptions) (replies : Nat → AttemptReplies)
    (body : Nat → σ → Body σ α) :
    (remaining : Nat) → (next : Nat) → (last : Option Failure) → σ → Connection →
      RetryRun (σ × Connection) α
  | 0, _, last, state, c => ⟨[], [], .error (last.getD noAttempts), (state, c)⟩
  | remaining + 1, next, _, state, c =>
    let made := attemptOnce options (replies next) (body next) state c
    match verdict made.1 with
    | .done result => ⟨[next], [], result, made.2⟩
    | .again cause =>
      let rest := transactFrom options replies body remaining (next + 1) (some cause)
        made.2.1 made.2.2
      ⟨next :: rest.attempts, pauseAfter options next remaining ++ rest.delays,
        rest.result, rest.state⟩

/-- Runs a body in a transaction, again if it fails because transactions were in each
other's way. -/
def runInTransaction {σ α : Type} (options : TransactionOptions)
    (replies : Nat → AttemptReplies) (body : Nat → σ → Body σ α) (state : σ) (c : Connection) :
    RetryRun (σ × Connection) α :=
  transactFrom options replies body options.attempts 0 none state c

end BoundSql
