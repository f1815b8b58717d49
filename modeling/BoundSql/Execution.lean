import BoundSql.Connection
import BoundSql.Query.Compile

/-! # Running queries

A query is sent once, whatever is asked of the answer: all rows, the first one,
the number of rows touched, or rows turned into values. -/
set_option autoImplicit false
namespace BoundSql

abbrev Reading (α : Type) := Except DriverError Answer → Except Failure α

def Reading.rows : Reading (List Row)
  | .ok a => .ok a.rows
  | .error e => .error (Failure.ofDriver e)

def expectedOneRow : Failure := .notFound "Expected one row, got none"

def Reading.firstRow? : Reading (Option Row) := fun report => (Reading.rows report).map List.head?

def Reading.firstRow : Reading Row := fun report =>
  match Reading.rows report with
  | .error failure => .error failure
  | .ok [] => .error expectedOneRow
  | .ok (row :: _) => .ok row

def Reading.affected : Reading Nat
  | .ok a => .ok a.affected
  | .error e => .error (Failure.ofDriver e)

def decodeRows {α : Type} (decode : Row → Except Failure α) : List Row → Except Failure (List α)
  | [] => .ok []
  | row :: rest =>
    match decode row with
    | .error failure => .error failure
    | .ok value => (decodeRows decode rest).map (value :: ·)

def Reading.all {α : Type} (decode : Row → Except Failure α) : Reading (List α) :=
  fun report => (Reading.rows report).bind (decodeRows decode)

def Reading.first {α : Type} (decode : Row → Except Failure α) : Reading α :=
  fun report => (Reading.firstRow report).bind decode

def Reading.first? {α : Type} (decode : Row → Except Failure α) : Reading (Option α) :=
  fun report =>
    match Reading.firstRow? report with
    | .error failure => .error failure
    | .ok none => .ok none
    | .ok (some row) => (decode row).map some

def Query.run {α : Type} (q : Query) (reading : Reading α) (reply : Reply) (c : Connection) :
    Except Failure α × Connection :=
  let sent := c.send q.sql q.params reply
  (reading sent.1, sent.2)

end BoundSql
