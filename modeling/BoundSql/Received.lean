import BoundSql.Json.Number
import BoundSql.Value

/-! # Values as they are received

A server sends a point in time as whole microseconds and a JSON value as the text
of a document.  What is received in a cell is read from these: a shorter fraction
of the second, and numbers read back from their text. -/
set_option autoImplicit false
namespace BoundSql

mutual

/-- A JSON value after it was written and read again. -/
def Json.received : Json → Json
  | .float x => (Json.number? (x.render .json).toList).getD (.float x)
  | .array items => .array (Json.receivedItems items)
  | .object entries => .object (Json.receivedEntries entries)
  | v => v

def Json.receivedItems : List Json → List Json
  | [] => []
  | item :: rest => item.received :: Json.receivedItems rest

def Json.receivedEntries : List (String × Json) → List (String × Json)
  | [] => []
  | (key, value) :: rest => (key, value.received) :: Json.receivedEntries rest

end

/-- A value of a cell after it was sent. -/
def Value.received : Value → Value
  | .timestamptz t => .timestamptz (.ofMicroseconds t.microseconds)
  | .json v => .json v.received
  | v => v

end BoundSql
