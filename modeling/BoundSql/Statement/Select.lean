import BoundSql.Statement.Join
import BoundSql.Statement.Paging

/-! # Select

The clauses of a select are written in the order of the grammar.  A join has its
place behind a table, so joins are only written where there is one. -/
set_option autoImplicit false
namespace BoundSql

structure Select where
  distinct : Option (List Term) := none
  columns : List Term := []
  sources : List Term := []
  joins : List Join := []
  filter : Condition := {}
  groupBy : List Term := []
  having : Condition := {}
  paging : Paging := {}

/-- Asks for distinct rows; columns given here decide which rows are distinct,
behind those given before. -/
def Select.addDistinct (s : Select) (on : List Term) : Select :=
  { s with distinct := some (s.distinct.getD [] ++ on) }

def Select.addColumns (s : Select) (columns : List Term) : Select :=
  { s with columns := s.columns ++ columns }

def Select.addSources (s : Select) (sources : List Term) : Select :=
  { s with sources := s.sources ++ sources }

def Select.addJoin (s : Select) (j : Join) : Select := { s with joins := s.joins ++ [j] }

def Select.addGroupBy (s : Select) (columns : List Term) : Select :=
  { s with groupBy := s.groupBy ++ columns }

def Select.distinctTerms (s : Select) : List Term :=
  match s.distinct with
  | none => []
  | some on => .word "distinct" :: parenClause "on" on

def Select.sourceTerms (s : Select) : List Term :=
  if s.sources.isEmpty then []
  else [.word "from", .commaList s.sources] ++ s.joins.map Join.toTerm

def Select.terms (s : Select) : List Term :=
  [.word "select"] ++ s.distinctTerms
    ++ (if s.columns.isEmpty then [] else [.commaList s.columns])
    ++ s.sourceTerms ++ conditionClause "where" s.filter ++ parenClause "group by" s.groupBy
    ++ conditionClause "having" s.having ++ s.paging.terms

def Select.toTerm (s : Select) : Term := .nested s.terms

def valuesTable (rows : List (List Term)) : Term :=
  .nested [.word "values", rowsTerm (rows.map fun row => row.map Term.arg)]

end BoundSql
