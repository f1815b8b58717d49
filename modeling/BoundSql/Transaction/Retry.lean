import BoundSql.Failure
import BoundSql.Transaction.Options

/-! # Retrying

An attempt that fails because transactions were in each other's way is made
again, until the attempts run out.  Any other end of an attempt is the end of
the run; to give up on purpose is no failure.  An attempt reads and changes a
state, which the run hands from one to the next. -/
set_option autoImplicit false
namespace BoundSql

/-- What an attempt means for the run. -/
inductive Verdict (α : Type)
  | done (result : Except Failure (Option α))
  | again (cause : Failure)

def verdict {α : Type} : Except Failure α → Verdict α
  | .ok value => .done (.ok (some value))
  | .error .abort => .done (.ok none)
  | .error failure =>
    if failure.isSerializationFailure then .again failure else .done (.error failure)

/-- What a run did: the attempts made, the delays asked for after which attempt,
the result, and the state that is left. -/
structure RetryRun (σ α : Type) where
  attempts : List Nat
  delays : List (Nat × Duration)
  result : Except Failure (Option α)
  state : σ

def noAttempts : Failure := .other "no transaction attempts were made"

def pauseAfter (options : TransactionOptions) (attempt remaining : Nat) :
    List (Nat × Duration) :=
  match remaining, options.backoff with
  | 0, _ => []
  | _ + 1, none => []
  | _ + 1, some backoff => [(attempt, backoff attempt)]

/-- Makes the attempts from number `next` on, as many as remain; `last` is the
failure of the attempt before. -/
def retryFrom {σ α : Type} (options : TransactionOptions)
    (attempt : Nat → σ → Except Failure α × σ) :
    (remaining : Nat) → (next : Nat) → (last : Option Failure) → σ → RetryRun σ α
  | 0, _, last, state => ⟨[], [], .error (last.getD noAttempts), state⟩
  | remaining + 1, next, _, state =>
    let made := attempt next state
    match verdict made.1 with
    | .done result => ⟨[next], [], result, made.2⟩
    | .again cause =>
      let rest := retryFrom options attempt remaining (next + 1) (some cause) made.2
      ⟨next :: rest.attempts, pauseAfter options next remaining ++ rest.delays,
        rest.result, rest.state⟩

/-- Makes attempts, counted from zero, until one of them ends the run. -/
def retry {σ α : Type} (options : TransactionOptions)
    (attempt : Nat → σ → Except Failure α × σ) (state : σ) : RetryRun σ α :=
  retryFrom options attempt options.attempts 0 none state

end BoundSql
