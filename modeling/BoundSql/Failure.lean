/-! # Failures

What can go wrong when a statement runs.  The server reports an error with a
code; four codes have a failure of their own, and any other error, like a lost
connection, stays what the driver reported. -/
set_option autoImplicit false
namespace BoundSql

/-- An error as the server reports it. -/
structure ServerError where
  code : String
  message : String
  constraint : Option String := none
deriving DecidableEq

/-- An error of the driver: the server answered with one, or is gone, or the
statement could not be sent to it. -/
inductive DriverError
  | server (e : ServerError)
  | closed
  | unsendable
deriving DecidableEq

def DriverError.message : DriverError → String
  | .server _ => "db error"
  | .closed => "connection closed"
  | .unsendable => "error encoding message to server"

inductive Failure
  | query (cause : DriverError)
  | notFound (message : String)
  | uniqueViolation (constraint message : String)
  | foreignKeyViolation (message : String)
  | checkViolation (message : String)
  | serializationFailure (message : String)
  | decode (column message : String)
  | abort
  | other (message : String)
deriving DecidableEq

def Failure.message : Failure → String
  | .query cause => "Query error: " ++ cause.message
  | .notFound message => "Not found: " ++ message
  | .uniqueViolation constraint message =>
    "Unique constraint violation: " ++ constraint ++ ": " ++ message
  | .foreignKeyViolation message => "Foreign key violation: " ++ message
  | .checkViolation message => "Check constraint violation: " ++ message
  | .serializationFailure message => "Serialization failure: " ++ message
  | .decode column message => "Decode error on column '" ++ column ++ "': " ++ message
  | .abort => "transaction aborted"
  | .other message => message

/-- Whether the transaction may succeed when it is run again. -/
def Failure.isSerializationFailure : Failure → Bool
  | .serializationFailure _ => true
  | _ => false

def Failure.isNotFound : Failure → Bool
  | .notFound _ => true
  | _ => false

/-- Whether a unique constraint failed; a name asks for that one. -/
def Failure.isUniqueViolation (f : Failure) (wanted : Option String) : Bool :=
  match f with
  | .uniqueViolation constraint _ =>
    match wanted with
    | none => true
    | some name => decide (name = constraint)
  | _ => false

/-- The failure that a code stands for, if it has one of its own. -/
def ServerError.classify? (e : ServerError) : Option Failure :=
  let constraint := e.constraint.getD "unknown"
  if e.code = "23505" then some (.uniqueViolation constraint e.message)
  else if e.code = "23503" then some (.foreignKeyViolation (constraint ++ ": " ++ e.message))
  else if e.code = "23514" then some (.checkViolation (constraint ++ ": " ++ e.message))
  else if e.code = "40001" then some (.serializationFailure e.message)
  else none

def Failure.ofDriver : DriverError → Failure
  | .server e => e.classify?.getD (.query (.server e))
  | e => .query e

end BoundSql
