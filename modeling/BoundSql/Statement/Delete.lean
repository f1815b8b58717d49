import BoundSql.Statement.Clause

/-! # Delete -/
set_option autoImplicit false
namespace BoundSql

structure Delete where
  table : Option Term := none
  filter : Condition := {}
  returning : List Term := []

def Delete.addReturning (d : Delete) (columns : List Term) : Delete :=
  { d with returning := d.returning ++ columns }

def Delete.terms (d : Delete) : List Term :=
  [.word "delete from"] ++ d.table.toList ++ conditionClause "where" d.filter
    ++ listClause "returning" d.returning

end BoundSql
