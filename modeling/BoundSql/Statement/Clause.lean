import BoundSql.Statement.Condition

/-! # Clauses

Most clauses are a keyword and what follows it, and are left out when nothing
would follow. -/
set_option autoImplicit false
namespace BoundSql

def listClause (keyword : String) (items : List Term) : List Term :=
  if items.isEmpty then [] else [.word keyword, .commaList items]

def parenClause (keyword : String) (items : List Term) : List Term :=
  if items.isEmpty then [] else [.word keyword, .parenList items]

def conditionClause (keyword : String) (c : Condition) : List Term :=
  if c.isEmpty then [] else [.word keyword, c.toTerm]

def numberClause (keyword : String) (n : Option Int64) : List Term :=
  match n with
  | none => []
  | some n => [.word keyword, .literal (.int8 n)]

def termClause (keyword : String) (t : Option Term) : List Term :=
  match t with
  | none => []
  | some t => [.word keyword, t]

/-- A term between parentheses and the name it is known by, if it has one. -/
def aliased (inner : Term) (name : String) : Term :=
  .nested (inner.parenthesized :: if name.isEmpty then [] else [.word name])

def rowsTerm (rows : List (List Term)) : Term := .commaList (rows.map .parenList)

end BoundSql
