import BoundSql.Statement.Clause

/-! # Joins -/
set_option autoImplicit false
namespace BoundSql

inductive JoinKind
  | join
  | inner
  | fullOuter
  | left
  | right
deriving DecidableEq

def JoinKind.text : JoinKind → String
  | .join => "join"
  | .inner => "inner join"
  | .fullOuter => "full outer join"
  | .left => "left join"
  | .right => "right join"

structure Join where
  kind : JoinKind
  lateral : Bool
  target : Term
  on : Condition := {}
  usingColumns : List Term := []

def Join.toTerm (j : Join) : Term :=
  .nested ([.word j.kind.text] ++ (if j.lateral then [.word "lateral"] else []) ++ [j.target]
    ++ conditionClause "on" j.on ++ parenClause "using" j.usingColumns)

end BoundSql
