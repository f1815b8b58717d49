import BoundSql.Statement.Clause

/-! # Order, limit and offset

The clauses at the end of a select or a union. -/
set_option autoImplicit false
namespace BoundSql

inductive OrderWord
  | asc
  | desc
  | nullsFirst
  | nullsLast
deriving DecidableEq

structure OrderItem where
  column : Term
  direction : Option String := none
  nulls : Option String := none

/-- The last word about the direction holds, and so does the last about nulls. -/
def OrderItem.say (item : OrderItem) : OrderWord → OrderItem
  | .asc => { item with direction := some "asc" }
  | .desc => { item with direction := some "desc" }
  | .nullsFirst => { item with nulls := some "nulls first" }
  | .nullsLast => { item with nulls := some "nulls last" }

def OrderItem.of (column : Term) (words : List OrderWord) : OrderItem :=
  words.foldl OrderItem.say { column }

def OrderItem.toTerm (item : OrderItem) : Term :=
  .nested (item.column :: ((item.direction.toList ++ item.nulls.toList).map .word))

structure Paging where
  order : List OrderItem := []
  limit : Option Int64 := none
  offset : Option Int64 := none

def Paging.addOrder (p : Paging) (column : Term) (words : List OrderWord) : Paging :=
  { p with order := p.order ++ [OrderItem.of column words] }

def Paging.terms (p : Paging) : List Term :=
  listClause "order by" (p.order.map OrderItem.toTerm)
    ++ numberClause "limit" p.limit ++ numberClause "offset" p.offset

end BoundSql
