import BoundSql.Duration
import BoundSql.Text.Bool

/-! # Transaction options -/
set_option autoImplicit false
namespace BoundSql

inductive Isolation
  | readUncommitted
  | readCommitted
  | repeatableRead
  | serializable
deriving DecidableEq

def Isolation.name : Isolation → String
  | .readUncommitted => "ReadUncommitted"
  | .readCommitted => "ReadCommitted"
  | .repeatableRead => "RepeatableRead"
  | .serializable => "Serializable"

def Isolation.text : Isolation → String
  | .readUncommitted => "READ UNCOMMITTED"
  | .readCommitted => "READ COMMITTED"
  | .repeatableRead => "REPEATABLE READ"
  | .serializable => "SERIALIZABLE"

/-- How a transaction is started and how often it is tried.  A backoff gives the
delay after each failed attempt, counted from zero. -/
structure TransactionOptions where
  isolation : Isolation := .serializable
  readOnly : Bool := false
  deferrable : Bool := false
  maxAttempts : Int32 := 10
  backoff : Option (Nat → Duration) := none

/-- The number of attempts that are made at most: ten, unless a positive number
is asked for. -/
def TransactionOptions.attempts (o : TransactionOptions) : Nat :=
  if 0 < o.maxAttempts.toInt then o.maxAttempts.toInt.toNat else 10

theorem TransactionOptions.attempts_pos (o : TransactionOptions) : 0 < o.attempts := by
  unfold attempts
  split <;> omega

/-- The options as they are shown for inspection; of a backoff only that it is
there. -/
def TransactionOptions.inspect (o : TransactionOptions) : String :=
  "TxOptions \x7b isolation_level: " ++ o.isolation.name
    ++ ", read_only: " ++ Text.boolText o.readOnly
    ++ ", deferrable: " ++ Text.boolText o.deferrable
    ++ ", max_attempts: " ++ o.maxAttempts.toInt.repr
    ++ ", backoff: " ++ (if o.backoff.isSome then "Some(\"..\")" else "None") ++ " \x7d"

def TransactionOptions.startCommand (o : TransactionOptions) : String :=
  "START TRANSACTION ISOLATION LEVEL " ++ o.isolation.text
    ++ (if o.readOnly then ", READ ONLY" else ", READ WRITE")
    ++ (if o.deferrable then ", DEFERRABLE" else ", NOT DEFERRABLE")

end BoundSql
