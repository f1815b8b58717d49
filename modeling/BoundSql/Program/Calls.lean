import BoundSql.Statement.Delete
import BoundSql.Statement.Insert
import BoundSql.Statement.Select
import BoundSql.Statement.Union

/-! # Programs

A statement is built by a list of calls, and so is every condition, join,
conflict and part inside it.  The calls are data here, so that a whole program
can be quantified over, taken apart and compared with another. -/
set_option autoImplicit false
namespace BoundSql

inductive Operator
  | eq
  | ne
  | lt
  | le
  | gt
  | ge
  | like
  | ilike
  | custom (text : String)
deriving DecidableEq

def Operator.text : Operator → String
  | .eq => "="
  | .ne => "!="
  | .lt => "<"
  | .le => "<="
  | .gt => ">"
  | .ge => ">="
  | .like => "like"
  | .ilike => "ilike"
  | .custom text => text

inductive ListOperator
  | isIn
  | notIn
  | custom (text : String)
deriving DecidableEq

def ListOperator.text : ListOperator → String
  | .isIn => "in"
  | .notIn => "not in"
  | .custom text => text

/-- The left side of a predicate that is spelt out step by step: a field stands
as it is, a value is bound. -/
inductive Operand
  | field (t : Term)
  | value (t : Term)

def Operand.term : Operand → Term
  | .field t => t
  | .value t => t.arg

inductive RightSide
  | value (t : Term)
  | raw (t : Term)
  | field (t : Term)

def RightSide.term : RightSide → Term
  | .value t => t.arg
  | .raw t => t.raw
  | .field t => t.raw

inductive RightList
  | values (ts : List Term)
  | raws (ts : List Term)
  | field (t : Term)

/-- What follows the left side.  A predicate may be left unfinished. -/
inductive PredicateTail
  | unfinished
  | compare (operator : Operator) (right : Option RightSide)
  | member (operator : ListOperator) (right : Option RightList)
  | isNull
  | isNotNull

mutual

inductive ConditionCall
  | compare (left : Term) (operator : Operator) (value : Term)
  | compareRaw (left : Term) (operator : Operator) (value : Term)
  | between (left low high : Term)
  | notBetween (left low high : Term)
  | isIn (left : Term) (values : List Term)
  | isInRaw (left : Term) (values : List Term)
  | notIn (left : Term) (values : List Term)
  | notInRaw (left : Term) (values : List Term)
  | inSelect (left : Term) (select : List SelectCall)
  | isNull (left : Term)
  | isNotNull (left : Term)
  | rawText (sql : String)
  | stepwise (left : Operand) (tail : PredicateTail)
  | stepwiseSelect (left : Operand) (operator : ListOperator) (select : List SelectCall)
  | not (inner : List ConditionCall)
  | chained (connective : Connective) (inner : List ConditionCall)
  | mode (connective : Connective)

inductive SelectCall
  | distinct (on : List (List Term))
  | columns (columns : List Term)
  | columnSelect (select : List SelectCall) (name : String)
  | sources (sources : List Term)
  | sourceSelect (select : List SelectCall) (name : String)
  | sourceValues (rows : List (List Term)) (name : String)
  | join (kind : JoinKind) (target : Term) (ties : List JoinCall)
  | joinSelect (kind : JoinKind) (lateral : Bool) (select : List SelectCall) (name : String)
      (ties : List JoinCall)
  | joinUnion (kind : JoinKind) (union : List UnionCall) (name : String) (ties : List JoinCall)
  | filter (condition : List ConditionCall)
  | groupBy (columns : List Term)
  | having (condition : List ConditionCall)
  | orderBy (column : Term) (words : List OrderWord)
  | limit (n : Int64)
  | offset (n : Int64)

inductive JoinCall
  | on (condition : List ConditionCall)
  | usingColumns (columns : List Term)

inductive UnionCall
  | select (keepAll : Bool) (select : List SelectCall)
  | union (keepAll : Bool) (union : List UnionCall)
  | orderBy (column : Term) (words : List OrderWord)
  | limit (n : Int64)
  | offset (n : Int64)

end

inductive AssignmentCall
  | to (values : List Term)
  | toRaw (values : List Term)
  | select (select : List SelectCall)

inductive UpdateCall
  | table (t : Term)
  | set (columns : List Term) (values : List AssignmentCall)
  | sources (sources : List Term)
  | join (kind : JoinKind) (target : Term) (ties : List JoinCall)
  | filter (condition : List ConditionCall)
  | whereCurrentOf (cursor : Term)
  | returning (columns : List Term)

inductive ConflictCall
  | filter (condition : List ConditionCall)
  | doNothing
  | doUpdate (update : List UpdateCall)

inductive InsertCall
  | into (t : Term)
  | columns (columns : List Term)
  | overriding (o : Overriding)
  | defaultValues
  | value (row : List Term)
  | values (rows : List (List Term))
  | select (select : List SelectCall)
  | onConflict (columns : List Term) (calls : List ConflictCall)
  | onConflictOnConstraint (name : Term) (calls : List ConflictCall)
  | returning (columns : List Term)

inductive DeleteCall
  | table (t : Term)
  | filter (condition : List ConditionCall)
  | returning (columns : List Term)

/-- A program of any kind. -/
inductive Program
  | select (calls : List SelectCall)
  | insert (calls : List InsertCall)
  | update (calls : List UpdateCall)
  | delete (calls : List DeleteCall)
  | union (calls : List UnionCall)

end BoundSql
