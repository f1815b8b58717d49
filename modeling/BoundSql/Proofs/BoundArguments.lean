import BoundSql.Program.Calls
import BoundSql.Proofs.Pieces
import BoundSql.Proofs.Traces

/-! # The arguments that calls bind

Read off the calls alone: the arguments of a statement are the trace of its
surviving calls, arranged by the order in which the clauses stand in the text.
Joins, conditions and statements inside other ones are arranged on their own
first, and stand as a whole where the call around them binds. -/
set_option autoImplicit false
namespace BoundSql

inductive ConditionClause
  | own
  | chain
deriving DecidableEq

def conditionOrder : List ConditionClause := [.own, .chain]

inductive JoinClause
  | on (part : ConditionClause)
  | usingColumns
deriving DecidableEq

def joinOrder : List JoinClause := conditionOrder.map .on ++ [.usingColumns]

inductive SelectClause
  | distinct
  | columns
  | sources
  | joins
  | filter (part : ConditionClause)
  | groupBy
  | having (part : ConditionClause)
  | orderBy
deriving DecidableEq

def selectOrder (hasSource : Bool) : List SelectClause :=
  [.distinct, .columns, .sources] ++ (if hasSource then [.joins] else [])
    ++ conditionOrder.map .filter ++ [.groupBy] ++ conditionOrder.map .having ++ [.orderBy]

inductive UnionClause
  | parts
  | orderBy
deriving DecidableEq

def unionOrder : List UnionClause := [.parts, .orderBy]

inductive UpdateClause
  | table
  | assignments
  | sources
  | joins
  | filter (part : ConditionClause)
  | cursor
  | returning
deriving DecidableEq

def updateOrder : List UpdateClause :=
  [.table, .assignments, .sources, .joins] ++ conditionOrder.map .filter ++ [.cursor, .returning]

inductive ConflictClause
  | filter (part : ConditionClause)
  | action
deriving DecidableEq

def conflictOrder (hasFilter : Bool) : List ConflictClause :=
  (if hasFilter then conditionOrder.map .filter else []) ++ [.action]

inductive InsertClause
  | table
  | columns
  | rows
  | select
  | conflict
  | returning
deriving DecidableEq

def insertOrder : List InsertClause := [.table, .columns, .rows, .select, .conflict, .returning]

inductive DeleteClause
  | table
  | filter (part : ConditionClause)
  | returning
deriving DecidableEq

def deleteOrder : List DeleteClause := [.table] ++ conditionOrder.map .filter ++ [.returning]

def memberSlots (left : Term) (values : List Term) : List Value :=
  if values.isEmpty then [] else left.slots ++ values.flatMap Term.slots

def PredicateTail.slots (left : Term) : PredicateTail → List Value
  | .unfinished => []
  | .compare _ none => []
  | .compare _ (some right) => left.slots ++ right.term.slots
  | .member _ none => []
  | .member _ (some (.values ts)) => memberSlots left (ts.map Term.arg)
  | .member _ (some (.raws ts)) => memberSlots left (ts.map Term.raw)
  | .member _ (some (.field t)) => left.slots ++ t.raw.slots
  | .isNull => left.slots
  | .isNotNull => left.slots

def SelectCall.isSource : SelectCall → Bool
  | .sources ts => !ts.isEmpty
  | .sourceSelect _ _ => true
  | .sourceValues _ _ => true
  | _ => false

mutual

def ConditionCall.trace : ConditionCall → List (ConditionClause × Value)
  | .compare left _ value => tagged .own (left.slots ++ value.arg.slots)
  | .compareRaw left _ value => tagged .own (left.slots ++ value.raw.slots)
  | .between left low high => tagged .own (left.slots ++ low.arg.slots ++ high.arg.slots)
  | .notBetween left low high => tagged .own (left.slots ++ low.arg.slots ++ high.arg.slots)
  | .isIn left values => tagged .own (memberSlots left (values.map Term.arg))
  | .isInRaw left values => tagged .own (memberSlots left (values.map Term.raw))
  | .notIn left values => tagged .own (memberSlots left (values.map Term.arg))
  | .notInRaw left values => tagged .own (memberSlots left (values.map Term.raw))
  | .inSelect left calls =>
    tagged .own (left.slots
      ++ arrange (selectOrder (calls.any SelectCall.isSource)) (SelectCall.traceAll calls))
  | .isNull left => tagged .own left.slots
  | .isNotNull left => tagged .own left.slots
  | .rawText _ => []
  | .stepwise left tail => tagged .own (tail.slots left.term)
  | .stepwiseSelect left _ calls =>
    tagged .own (left.term.slots
      ++ arrange (selectOrder (calls.any SelectCall.isSource)) (SelectCall.traceAll calls))
  | .not inner => tagged .own (arrange conditionOrder (ConditionCall.traceAll inner))
  | .chained _ inner => tagged .chain (arrange conditionOrder (ConditionCall.traceAll inner))
  | .mode _ => []

def ConditionCall.traceAll : List ConditionCall → List (ConditionClause × Value)
  | [] => []
  | call :: rest => call.trace ++ ConditionCall.traceAll rest

def SelectCall.trace : SelectCall → List (SelectClause × Value)
  | .distinct on => tagged .distinct (on.flatten.flatMap Term.slots)
  | .columns ts => tagged .columns (ts.flatMap Term.slots)
  | .columnSelect calls _ =>
    tagged .columns
      (arrange (selectOrder (calls.any SelectCall.isSource)) (SelectCall.traceAll calls))
  | .sources ts => tagged .sources (ts.flatMap Term.slots)
  | .sourceSelect calls _ =>
    tagged .sources
      (arrange (selectOrder (calls.any SelectCall.isSource)) (SelectCall.traceAll calls))
  | .sourceValues rows _ =>
    tagged .sources (rows.flatMap fun row => row.flatMap fun t => t.arg.slots)
  | .join _ target ties =>
    tagged .joins (target.slots ++ arrange joinOrder (JoinCall.traceAll ties))
  | .joinSelect _ _ calls _ ties =>
    tagged .joins
      (arrange (selectOrder (calls.any SelectCall.isSource)) (SelectCall.traceAll calls)
        ++ arrange joinOrder (JoinCall.traceAll ties))
  | .joinUnion _ calls _ ties =>
    tagged .joins (arrange unionOrder (UnionCall.traceAll calls)
      ++ arrange joinOrder (JoinCall.traceAll ties))
  | .filter condition => relabel .filter (ConditionCall.traceAll condition)
  | .groupBy ts => tagged .groupBy (ts.flatMap Term.slots)
  | .having condition => relabel .having (ConditionCall.traceAll condition)
  | .orderBy column _ => tagged .orderBy column.slots
  | .limit _ => []
  | .offset _ => []

def SelectCall.traceAll : List SelectCall → List (SelectClause × Value)
  | [] => []
  | call :: rest => call.trace ++ SelectCall.traceAll rest

def JoinCall.trace : JoinCall → List (JoinClause × Value)
  | .on condition => relabel .on (ConditionCall.traceAll condition)
  | .usingColumns ts => tagged .usingColumns (ts.flatMap Term.slots)

def JoinCall.traceAll : List JoinCall → List (JoinClause × Value)
  | [] => []
  | call :: rest => call.trace ++ JoinCall.traceAll rest

def UnionCall.trace : UnionCall → List (UnionClause × Value)
  | .select _ calls =>
    tagged .parts
      (arrange (selectOrder (calls.any SelectCall.isSource)) (SelectCall.traceAll calls))
  | .union _ calls => tagged .parts (arrange unionOrder (UnionCall.traceAll calls))
  | .orderBy column _ => tagged .orderBy column.slots
  | .limit _ => []
  | .offset _ => []

def UnionCall.traceAll : List UnionCall → List (UnionClause × Value)
  | [] => []
  | call :: rest => call.trace ++ UnionCall.traceAll rest

end

def joinArguments (ties : List JoinCall) : List Value :=
  arrange joinOrder (JoinCall.traceAll ties)

def selectArguments (calls : List SelectCall) : List Value :=
  arrange (selectOrder (calls.any SelectCall.isSource)) (SelectCall.traceAll calls)

def unionArguments (calls : List UnionCall) : List Value :=
  arrange unionOrder (UnionCall.traceAll calls)

def AssignmentCall.arguments (call : AssignmentCall) : List Value :=
  match call with
  | .to values => values.flatMap fun t => t.arg.slots
  | .toRaw values => values.flatMap fun t => t.raw.slots
  | .select calls => selectArguments calls

def UpdateCall.trace : UpdateCall → List (UpdateClause × Value)
  | .table t => tagged .table t.slots
  | .set targets values =>
    tagged .assignments (targets.flatMap Term.slots ++ values.flatMap AssignmentCall.arguments)
  | .sources ts => tagged .sources (ts.flatMap Term.slots)
  | .join _ target ties => tagged .joins (target.slots ++ joinArguments ties)
  | .filter condition => relabel .filter (ConditionCall.traceAll condition)
  | .whereCurrentOf t => tagged .cursor t.slots
  | .returning ts => tagged .returning (ts.flatMap Term.slots)

def UpdateCall.replaces : UpdateCall → Option UpdateClause
  | .table _ => some .table
  | .whereCurrentOf _ => some .cursor
  | _ => none

def updateArguments (calls : List UpdateCall) : List Value :=
  arrange updateOrder ((surviving UpdateCall.replaces calls).flatMap UpdateCall.trace)

def ConflictCall.trace : ConflictCall → List (ConflictClause × Value)
  | .filter condition => relabel .filter (ConditionCall.traceAll condition)
  | .doNothing => []
  | .doUpdate calls => tagged .action (updateArguments calls)

def ConflictCall.replaces : ConflictCall → Option ConflictClause
  | .filter _ => none
  | .doNothing => some .action
  | .doUpdate _ => some .action

def conflictArguments (hasFilter : Bool) (calls : List ConflictCall) : List Value :=
  arrange (conflictOrder hasFilter)
    ((surviving ConflictCall.replaces calls).flatMap ConflictCall.trace)

def InsertCall.trace : InsertCall → List (InsertClause × Value)
  | .into t => tagged .table t.slots
  | .columns ts => tagged .columns (ts.flatMap Term.slots)
  | .overriding _ => []
  | .defaultValues => []
  | .value row => tagged .rows (row.flatMap fun t => t.arg.slots)
  | .values rows => tagged .rows (rows.flatMap fun row => row.flatMap fun t => t.arg.slots)
  | .select calls => tagged .select (selectArguments calls)
  | .onConflict targets calls =>
    tagged .conflict (targets.flatMap Term.slots ++ conflictArguments true calls)
  | .onConflictOnConstraint name calls =>
    tagged .conflict (name.slots ++ conflictArguments false calls)
  | .returning ts => tagged .returning (ts.flatMap Term.slots)

def InsertCall.replaces : InsertCall → Option InsertClause
  | .into _ => some .table
  | .select _ => some .select
  | .onConflict _ _ => some .conflict
  | .onConflictOnConstraint _ _ => some .conflict
  | _ => none

def insertArguments (calls : List InsertCall) : List Value :=
  arrange insertOrder ((surviving InsertCall.replaces calls).flatMap InsertCall.trace)

def DeleteCall.trace : DeleteCall → List (DeleteClause × Value)
  | .table t => tagged .table t.slots
  | .filter condition => relabel .filter (ConditionCall.traceAll condition)
  | .returning ts => tagged .returning (ts.flatMap Term.slots)

def DeleteCall.replaces : DeleteCall → Option DeleteClause
  | .table _ => some .table
  | _ => none

def deleteArguments (calls : List DeleteCall) : List Value :=
  arrange deleteOrder ((surviving DeleteCall.replaces calls).flatMap DeleteCall.trace)

/-- The arguments of a program, read off its calls. -/
def Program.arguments : Program → List Value
  | .select calls => selectArguments calls
  | .insert calls => insertArguments calls
  | .update calls => updateArguments calls
  | .delete calls => deleteArguments calls
  | .union calls => unionArguments calls

end BoundSql
