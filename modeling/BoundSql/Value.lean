import BoundSql.Calendar.Timestamp
import BoundSql.Json

/-! # Typed values

A value is what an argument of a query carries and what a cell of a row holds.
Its type is fixed by its constructor; a nullable value has the type of what it
may hold. -/
set_option autoImplicit false
namespace BoundSql

open Calendar (Date Timestamp)
open Decimal (Float4 Float8 Style)
open Text (boolText)

inductive SqlType
  | bool
  | int2
  | int4
  | int8
  | float4
  | float8
  | text
  | varchar
  | timestamptz
  | date
  | json
  | jsonb
  | int4Array
  | int8Array
  | textArray
deriving DecidableEq

def SqlType.name : SqlType → String
  | .bool => "bool"
  | .int2 => "int2"
  | .int4 => "int4"
  | .int8 => "int8"
  | .float4 => "float4"
  | .float8 => "float8"
  | .text => "text"
  | .varchar => "varchar"
  | .timestamptz => "timestamptz"
  | .date => "date"
  | .json => "json"
  | .jsonb => "jsonb"
  | .int4Array => "int4[]"
  | .int8Array => "int8[]"
  | .textArray => "text[]"

inductive Value
  | bool (b : Bool)
  | int2 (n : Int16)
  | int4 (n : Int32)
  | int8 (n : Int64)
  | float4 (x : Float4)
  | float8 (x : Float8)
  | text (s : String)
  | timestamptz (t : Timestamp)
  | date (d : Date)
  | json (v : Json)
  | int4Array (ns : List Int32)
  | int8Array (ns : List Int64)
  | textArray (ss : List String)
  | nullableBool (b : Option Bool)
  | nullableInt4 (n : Option Int32)
  | nullableInt8 (n : Option Int64)
  | nullableText (s : Option String)

def Value.type : Value → SqlType
  | .bool _ | .nullableBool _ => .bool
  | .int2 _ => .int2
  | .int4 _ | .nullableInt4 _ => .int4
  | .int8 _ | .nullableInt8 _ => .int8
  | .float4 _ => .float4
  | .float8 _ => .float8
  | .text _ | .nullableText _ => .text
  | .timestamptz _ => .timestamptz
  | .date _ => .date
  | .json _ => .json
  | .int4Array _ => .int4Array
  | .int8Array _ => .int8Array
  | .textArray _ => .textArray

def int2Text (n : Int16) : String := n.toInt.repr

def int4Text (n : Int32) : String := n.toInt.repr

def int8Text (n : Int64) : String := n.toInt.repr

/-- A value in text form: nothing for a typed null, one text, or the texts of
the elements of an array. -/
inductive Content
  | null
  | scalar (s : String)
  | list (items : List String)
deriving DecidableEq

private def nullable {α : Type} (text : α → String) : Option α → Content
  | none => .null
  | some x => .scalar (text x)

def Value.content : Value → Content
  | .bool b => .scalar (boolText b)
  | .int2 n => .scalar (int2Text n)
  | .int4 n => .scalar (int4Text n)
  | .int8 n => .scalar (int8Text n)
  | .float4 x => .scalar (x.render .plain)
  | .float8 x => .scalar (x.render .plain)
  | .text s => .scalar s
  | .timestamptz t => .scalar (t.text "T")
  | .date d => .scalar d.text
  | .json v => .scalar v.text
  | .int4Array ns => .list (ns.map int4Text)
  | .int8Array ns => .list (ns.map int8Text)
  | .textArray ss => .list ss
  | .nullableBool b => nullable boolText b
  | .nullableInt4 n => nullable int4Text n
  | .nullableInt8 n => nullable int8Text n
  | .nullableText s => nullable id s

private def inspectedList (items : List String) : String := "[" ++ ", ".intercalate items ++ "]"

private def inspectedOption {α : Type} (text : α → String) : Option α → String
  | none => "None"
  | some x => "Some(" ++ text x ++ ")"

/-- A value as it is shown for inspection: text in double quotes, arrays in
brackets, and a nullable value says whether it holds something. -/
def Value.inspect : Value → String
  | .bool b => boolText b
  | .int2 n => int2Text n
  | .int4 n => int4Text n
  | .int8 n => int8Text n
  | .float4 x => x.render .inspected
  | .float8 x => x.render .inspected
  | .text s => Text.inspectedString s
  | .timestamptz t => t.text "T"
  | .date d => d.text
  | .json v => v.inspect
  | .int4Array ns => inspectedList (ns.map int4Text)
  | .int8Array ns => inspectedList (ns.map int8Text)
  | .textArray ss => inspectedList (ss.map Text.inspectedString)
  | .nullableBool b => inspectedOption boolText b
  | .nullableInt4 n => inspectedOption int4Text n
  | .nullableInt8 n => inspectedOption int8Text n
  | .nullableText s => inspectedOption Text.inspectedString s

end BoundSql
