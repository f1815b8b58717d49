import BoundSql.Received
import BoundSql.Row

/-! # Connections

A connection is open or closed, and keeps a log of what the server received.
The server's reply to each request is given with the request: rows and a tag, an
error, or the end of the connection.  Nothing is sent on a closed connection, nor is
a statement with a null character, which would end its text too early. -/
set_option autoImplicit false
namespace BoundSql

/-- What the server received: a statement with its arguments, a statement that it
refused to prepare, or a command of the transaction itself. -/
inductive LogEntry
  | executed (sql : String) (params : List Value)
  | refused (sql : String)
  | command (text : String)

structure Connection where
  isOpen : Bool := true
  log : List LogEntry := []

/-- The rows of an answer and the tag that tells what was done. -/
structure Answer where
  rows : List Row
  tag : String

/-- An error comes when a statement is prepared or when it runs. -/
inductive Phase
  | preparing
  | running
deriving DecidableEq

inductive Reply
  | answer (a : Answer)
  | error (phase : Phase) (e : ServerError)
  | close

/-- An answer with these rows, their values as they are received; unless a tag is
given it counts the rows. -/
def Reply.ofRows (columns : List Column) (rows : List (List Cell)) (tag : Option String) :
    Reply :=
  .answer ⟨rows.map fun cells => ⟨columns.zip (cells.map fun cell => cell.map Value.received)⟩,
    tag.getD ("SELECT " ++ rows.length.repr)⟩

def Reply.ofTag (tag : String) : Reply := .answer ⟨[], tag⟩

def Connection.record (c : Connection) (entry : LogEntry) : Connection :=
  { c with log := c.log ++ [entry] }

def Connection.close (c : Connection) : Connection := { c with isOpen := false }

def isSendable (sql : String) : Bool := sql.toList.all fun c => decide (c.toNat ≠ 0)

def Connection.send (c : Connection) (sql : String) (params : List Value) (reply : Reply) :
    Except DriverError Answer × Connection :=
  if !isSendable sql then (.error .unsendable, c)
  else if c.isOpen then
    match reply with
    | .answer a => (.ok a, c.record (.executed sql params))
    | .error .preparing e => (.error (.server e), c.record (.refused sql))
    | .error .running e => (.error (.server e), c.record (.executed sql params))
    | .close => (.error .closed, (c.record (.executed sql params)).close)
  else (.error .closed, c)

def Connection.command (c : Connection) (text : String) (reply : Reply) :
    Except DriverError Unit × Connection :=
  if c.isOpen then
    match reply with
    | .answer _ => (.ok (), c.record (.command text))
    | .error _ e => (.error (.server e), c.record (.command text))
    | .close => (.error .closed, (c.record (.command text)).close)
  else (.error .closed, c)

/-- A whole number of at most sixty-four bits in decimal, perhaps after a plus sign. -/
def parseWord? (s : List Char) : Option Nat :=
  let digits := match s with
    | '+' :: rest => rest
    | _ => s
  if digits.isEmpty || !digits.all Char.isDigit then none
  else
    let n := Nat.ofDigitChars 10 digits 0
    if n < 18446744073709551616 then some n else none

def lastWord (s : List Char) : List Char := (s.reverse.takeWhile (· ≠ ' ')).reverse

/-- The number of rows that a statement touched: the last word of the tag, if
that is a number. -/
def Answer.affected (a : Answer) : Nat := (parseWord? (lastWord a.tag.toList)).getD 0

end BoundSql
