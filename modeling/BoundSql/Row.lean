import BoundSql.Failure
import BoundSql.Json.Depth
import BoundSql.Value

/-! # Rows

A row holds a cell for each of its columns.  A column is found by its name, or
else by a name that differs only in the case of ASCII letters; the leftmost one
counts.  Reading a cell fails where the column has another type, where it holds
no value, or where a JSON value is nested too deeply or has another shape than the
one asked for. -/
set_option autoImplicit false
namespace BoundSql

structure Column where
  name : String
  type : SqlType

/-- A cell without a value is an SQL null. -/
abbrev Cell := Option Value

structure Row where
  fields : List (Column × Cell)

def foldCase (name : String) : List Char := name.toList.map Char.toLower

def Row.find? (row : Row) (name : String) : Option Nat :=
  (row.fields.findIdx? fun field => field.1.name = name).or
    (row.fields.findIdx? fun field => foldCase field.1.name = foldCase name)

/-- The shapes that a JSON value can be asked for. -/
inductive JsonShape
  | anything
  | int8
  | text
  | int8List
  | optionalInt8
deriving DecidableEq

/-- What a cell is read as. -/
inductive CellType
  | value (type : SqlType)
  | nullable (type : SqlType)
  | json (shape : JsonShape)
deriving DecidableEq

def CellType.sqlType : CellType → SqlType
  | .value type => type
  | .nullable type => type
  | .json _ => .json

/-- Whether a column of the second type can be read as the first. -/
def SqlType.reads (wanted column : SqlType) : Bool :=
  wanted = column
    || (decide (wanted = .text) && decide (column = .varchar))
    || (decide (wanted = .json) && decide (column = .jsonb))

inductive CellFault
  | noColumn (name : String)
  | unreadable (index : Nat)
  | shape (found : Json) (expected : String)
  | range (found : Int) (expected : String)

def Json.describe : Json → String
  | .null => "null"
  | .bool b => "boolean \x60" ++ Text.boolText b ++ "\x60"
  | .int n => "integer \x60" ++ n.repr ++ "\x60"
  | .float x => "floating point \x60" ++ x.render .json ++ "\x60"
  | .string s => "string " ++ Text.inspectedString s
  | .array _ => "sequence"
  | .object _ => "map"

def CellFault.message : CellFault → String
  | .noColumn name => "invalid column \x60" ++ name ++ "\x60"
  | .unreadable index => "error deserializing column " ++ index.repr
  | .shape found expected => "invalid type: " ++ found.describe ++ ", expected " ++ expected
  | .range found expected =>
    "invalid value: integer \x60" ++ found.repr ++ "\x60, expected " ++ expected

def Json.toInt8? : Json → Except CellFault Int64
  | .int n =>
    if n ≤ 9223372036854775807 then .ok (Int64.ofInt n) else .error (.range n "i64")
  | v => .error (.shape v "i64")

def Json.toInt8List? : Json → Except CellFault (List Int64)
  | .array items => items.mapM Json.toInt8?
  | v => .error (.shape v "a sequence")

def Json.toText? : Json → Except CellFault String
  | .string s => .ok s
  | v => .error (.shape v "a string")

def JsonShape.read : JsonShape → Json → Except CellFault Value
  | .anything, v => .ok (.json v)
  | .int8, v => v.toInt8?.map .int8
  | .text, v => v.toText?.map .text
  | .int8List, v => v.toInt8List?.map .int8Array
  | .optionalInt8, .null => .ok (.nullableInt8 none)
  | .optionalInt8, v => v.toInt8?.map fun n => .nullableInt8 (some n)

def Json.depthLimit : Nat := 127

/-- Whether a value can be read at all. -/
def Value.isReadable : Value → Bool
  | .json v => decide (v.depth ≤ Json.depthLimit)
  | _ => true

def CellType.read (wanted : CellType) (index : Nat) (column : Column) (cell : Cell) :
    Except CellFault Cell :=
  if wanted.sqlType.reads column.type && cell.all Value.isReadable then
    match wanted, cell with
    | .nullable _, none => .ok none
    | .json shape, some (.json v) => (shape.read v).map some
    | .json _, _ => .error (.unreadable index)
    | _, some v => .ok (some v)
    | _, none => .error (.unreadable index)
  else .error (.unreadable index)

/-- Reads the cell at a place; the name is for the message where there is none. -/
def Row.readAt (row : Row) (index : Option Nat) (name : String) (wanted : CellType) :
    Except Failure Cell :=
  let read : Except CellFault Cell :=
    match index with
    | none => .error (.noColumn name)
    | some i =>
      match row.fields[i]? with
      | none => .error (.noColumn name)
      | some field => wanted.read i field.1 field.2
  read.mapError fun fault => .decode name fault.message

def Row.readColumn (row : Row) (name : String) (wanted : CellType) : Except Failure Cell :=
  row.readAt (row.find? name) name wanted

def Row.readFirst (row : Row) (type : SqlType) : Except Failure Cell :=
  row.readAt (some 0) "0" (.value type)

def Row.readColumns (row : Row) : List (String × CellType) → Except Failure (List Cell)
  | [] => .ok []
  | (name, wanted) :: rest =>
    match row.readColumn name wanted with
    | .error failure => .error failure
    | .ok cell => (row.readColumns rest).map (cell :: ·)

/-- What a whole row is turned into: the value of its first column, or a record of
named columns. -/
inductive RowType
  | scalar (type : SqlType)
  | record (fields : List (String × CellType))

inductive Decoded
  | scalar (cell : Cell)
  | record (cells : List Cell)

def RowType.decode (t : RowType) (row : Row) : Except Failure Decoded :=
  match t with
  | .scalar type => (row.readFirst type).map .scalar
  | .record fields => (row.readColumns fields).map .record

end BoundSql
