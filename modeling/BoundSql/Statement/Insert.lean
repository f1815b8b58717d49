import BoundSql.Statement.Update

/-! # Insert

A conflict is met at some columns, perhaps only where a condition holds, or at a
named constraint; then nothing is done or an update is made. -/
set_option autoImplicit false
namespace BoundSql

inductive ConflictTarget
  | columns (columns : List Term)
  | constraint (name : Term)

inductive ConflictAction
  | nothing
  | update (u : Update)

structure Conflict where
  target : ConflictTarget
  filter : Condition := {}
  action : Option ConflictAction := none

/-- The filter belongs to columns; a constraint has none. -/
def Conflict.targetTerms (c : Conflict) : List Term :=
  match c.target with
  | .columns columns =>
    (if columns.isEmpty then [] else [.parenList columns]) ++ conditionClause "where" c.filter
  | .constraint name => [.word "on constraint", name]

def Conflict.actionTerms (c : Conflict) : List Term :=
  match c.action with
  | none => []
  | some .nothing => [.word "do nothing"]
  | some (.update u) => [.word "do", .nested u.terms]

def Conflict.toTerm (c : Conflict) : Term :=
  .nested ([.word "on conflict"] ++ c.targetTerms ++ c.actionTerms)

inductive Overriding
  | system
  | user
deriving DecidableEq

def Overriding.text : Overriding → String
  | .system => "system"
  | .user => "user"

structure Insert where
  table : Option Term := none
  columns : List Term := []
  overriding : Option Overriding := none
  defaultValues : Bool := false
  rows : List (List Term) := []
  select : Option Term := none
  conflict : Option Conflict := none
  returning : List Term := []

def Insert.addColumns (i : Insert) (columns : List Term) : Insert :=
  { i with columns := i.columns ++ columns }

def Insert.addRows (i : Insert) (rows : List (List Term)) : Insert :=
  { i with rows := i.rows ++ rows.map fun row => row.map Term.arg }

def Insert.addReturning (i : Insert) (columns : List Term) : Insert :=
  { i with returning := i.returning ++ columns }

def Insert.overridingTerms (i : Insert) : List Term :=
  match i.overriding with
  | none => []
  | some o => [.word "overriding", .word o.text, .word "value"]

def Insert.terms (i : Insert) : List Term :=
  [.word "insert"] ++ termClause "into" i.table
    ++ (if i.columns.isEmpty then [] else [.parenList i.columns]) ++ i.overridingTerms
    ++ (if i.defaultValues then [.word "default values"] else [])
    ++ (if i.rows.isEmpty then [] else [.word "values", rowsTerm i.rows])
    ++ i.select.toList ++ (i.conflict.map Conflict.toTerm).toList
    ++ listClause "returning" i.returning

end BoundSql
