import BoundSql.Statement.Join

/-! # Update

An assignment gives one or more columns one or more values.  Several columns
stand between parentheses, and several values make a row. -/
set_option autoImplicit false
namespace BoundSql

structure Assignment where
  columns : List Term
  values : List Term := []

def Assignment.addValues (a : Assignment) (values : List Term) : Assignment :=
  { a with values := a.values ++ values }

def Assignment.target (a : Assignment) : Term :=
  if 1 < a.columns.length then .parenList a.columns else .commaList a.columns

def Assignment.source (a : Assignment) : Term :=
  if 1 < a.values.length then .paren "row" comma a.values else .commaList a.values

def Assignment.toTerm (a : Assignment) : Term := .nested [a.target, .word "=", a.source]

/-- An update has no table of its own where it is the action of an insert. -/
structure Update where
  table : Option Term := none
  assignments : List Assignment := []
  sources : List Term := []
  joins : List Join := []
  filter : Condition := {}
  cursor : Option Term := none
  returning : List Term := []

def Update.addAssignment (u : Update) (a : Assignment) : Update :=
  { u with assignments := u.assignments ++ [a] }

def Update.addSources (u : Update) (sources : List Term) : Update :=
  { u with sources := u.sources ++ sources }

def Update.addJoin (u : Update) (j : Join) : Update := { u with joins := u.joins ++ [j] }

def Update.addReturning (u : Update) (columns : List Term) : Update :=
  { u with returning := u.returning ++ columns }

def Update.terms (u : Update) : List Term :=
  [.word "update"] ++ u.table.toList ++ listClause "set" (u.assignments.map Assignment.toTerm)
    ++ listClause "from" u.sources ++ u.joins.map Join.toTerm ++ conditionClause "where" u.filter
    ++ termClause "where current of" u.cursor ++ listClause "returning" u.returning

end BoundSql
