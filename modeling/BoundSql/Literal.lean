import BoundSql.Text.Quote
import BoundSql.Value

/-! # Literals

A literal is a scalar with a fixed text in a query.  Text stands for itself, so
that names and expressions can be written; dates and timestamps are quoted.
Every literal but null can become a bound value, which has no null without a
type. -/
set_option autoImplicit false
namespace BoundSql

open Calendar (Date Timestamp)
open Decimal (Float4 Float8)

inductive Literal
  | null
  | bool (b : Bool)
  | int2 (n : Int16)
  | int4 (n : Int32)
  | int8 (n : Int64)
  | float4 (x : Float4)
  | float8 (x : Float8)
  | text (s : String)
  | timestamp (t : Timestamp)
  | date (d : Date)
deriving DecidableEq

def Literal.render : Literal → String
  | .null => "null"
  | .bool b => Text.boolText b
  | .int2 n => int2Text n
  | .int4 n => int4Text n
  | .int8 n => int8Text n
  | .float4 x => x.render .plain
  | .float8 x => x.render .plain
  | .text s => s
  | .timestamp t => Text.quote (t.text " ")
  | .date d => Text.quote d.text

def Literal.toValue? : Literal → Option Value
  | .null => none
  | .bool b => some (.bool b)
  | .int2 n => some (.int2 n)
  | .int4 n => some (.int4 n)
  | .int8 n => some (.int8 n)
  | .float4 x => some (.float4 x)
  | .float8 x => some (.float8 x)
  | .text s => some (.text s)
  | .timestamp t => some (.timestamptz t)
  | .date d => some (.date d)

@[simp]
theorem Literal.toValue?_eq_none_iff (l : Literal) : l.toValue? = none ↔ l = .null := by
  cases l <;> simp [toValue?]

def Literal.kind : Literal → String
  | .null => "null"
  | .bool _ => "bool"
  | .int2 _ => "int2"
  | .int4 _ => "int4"
  | .int8 _ => "int8"
  | .float4 _ => "float4"
  | .float8 _ => "float8"
  | .text _ => "text"
  | .timestamp _ => "timestamp"
  | .date _ => "date"

end BoundSql
