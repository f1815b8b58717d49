import BoundSql.Decimal.Notation
import BoundSql.Text.Bool
import BoundSql.Text.Escape

/-! # JSON values

A document is written without spaces, and the entries of an object in the order
of their keys. -/
set_option autoImplicit false
namespace BoundSql

open Decimal (Float8 Style)

/-- A JSON value.  Whole numbers are kept apart from fractional ones. -/
inductive Json
  | null
  | bool (b : Bool)
  | int (n : Int)
  | float (x : Float8)
  | string (s : String)
  | array (items : List Json)
  | object (entries : List (String × Json))
deriving Inhabited

/-- Puts an entry into its place; a key that is there already gets the new value. -/
def Json.insertEntry (key : String) (value : Json) :
    List (String × Json) → List (String × Json)
  | [] => [(key, value)]
  | (k, v) :: rest =>
    if key = k then (key, value) :: rest
    else if key < k then (key, value) :: (k, v) :: rest
    else (k, v) :: Json.insertEntry key value rest

def Json.ofEntries (entries : List (String × Json)) : Json :=
  .object (entries.foldl (fun sorted entry => Json.insertEntry entry.1 entry.2 sorted) [])

mutual

def Json.text : Json → String
  | .null => "null"
  | .bool b => Text.boolText b
  | .int n => n.repr
  | .float x => x.render Style.json
  | .string s => Text.jsonString s
  | .array items => "[" ++ ",".intercalate (Json.itemTexts items) ++ "]"
  | .object entries => "\x7b" ++ ",".intercalate (Json.entryTexts entries) ++ "\x7d"

def Json.itemTexts : List Json → List String
  | [] => []
  | item :: rest => item.text :: Json.itemTexts rest

def Json.entryTexts : List (String × Json) → List String
  | [] => []
  | (key, value) :: rest => (Text.jsonString key ++ ":" ++ value.text) :: Json.entryTexts rest

end

mutual

def Json.inspect : Json → String
  | .null => "Null"
  | .bool b => "Bool(" ++ Text.boolText b ++ ")"
  | .int n => "Number(" ++ n.repr ++ ")"
  | .float x => "Number(" ++ x.render Style.json ++ ")"
  | .string s => "String(" ++ Text.inspectedString s ++ ")"
  | .array items => "Array [" ++ ", ".intercalate (Json.inspectItems items) ++ "]"
  | .object entries => "Object \x7b" ++ ", ".intercalate (Json.inspectEntries entries) ++ "\x7d"

def Json.inspectItems : List Json → List String
  | [] => []
  | item :: rest => item.inspect :: Json.inspectItems rest

def Json.inspectEntries : List (String × Json) → List String
  | [] => []
  | (key, value) :: rest =>
    (Text.inspectedString key ++ ": " ++ value.inspect) :: Json.inspectEntries rest

end

end BoundSql
