import BoundSql.Program.Calls
import BoundSql.Query.Compile

/-! # Building statements

Each call changes the statement it is made on.  A statement inside another one
is built at once and enters it as a term. -/
set_option autoImplicit false
namespace BoundSql

/-- Adds the predicate that a left side and a tail make, if it is finished. -/
def PredicateTail.addTo (tail : PredicateTail) (left : Term) (c : Condition) : Condition :=
  match tail with
  | .unfinished => c
  | .compare _ none => c
  | .compare operator (some right) => c.addPredicate [left, .word operator.text, right.term]
  | .member _ none => c
  | .member operator (some (.values ts)) => c.addMembership left operator.text (ts.map Term.arg)
  | .member operator (some (.raws ts)) => c.addMembership left operator.text (ts.map Term.raw)
  | .member operator (some (.field t)) => c.addPredicate [left, .word operator.text, t.raw]
  | .isNull => c.addPredicate [left, .word "is null"]
  | .isNotNull => c.addPredicate [left, .word "is not null"]

mutual

def ConditionCall.apply : ConditionCall → Condition → Condition
  | .compare left operator value, c =>
    c.addPredicate [left, .word operator.text, value.arg]
  | .compareRaw left operator value, c =>
    c.addPredicate [left, .word operator.text, value.raw]
  | .between left low high, c =>
    c.addPredicate [left, .word "between", low.arg, .word "and", high.arg]
  | .notBetween left low high, c =>
    c.addPredicate [left, .word "not between", low.arg, .word "and", high.arg]
  | .isIn left values, c => c.addMembership left "in" (values.map Term.arg)
  | .isInRaw left values, c => c.addMembership left "in" (values.map Term.raw)
  | .notIn left values, c => c.addMembership left "not in" (values.map Term.arg)
  | .notInRaw left values, c => c.addMembership left "not in" (values.map Term.raw)
  | .inSelect left select, c =>
    c.addPredicate [left, .word "in", (SelectCall.applyAll select {}).toTerm.parenthesized]
  | .isNull left, c => c.addPredicate [left, .word "is null"]
  | .isNotNull left, c => c.addPredicate [left, .word "is not null"]
  | .rawText sql, c => c.addText sql
  | .stepwise left tail, c => tail.addTo left.term c
  | .stepwiseSelect left operator select, c =>
    c.addPredicate [left.term, .word operator.text,
      (SelectCall.applyAll select {}).toTerm.parenthesized]
  | .not inner, c => c.addNot (ConditionCall.applyAll inner {})
  | .chained connective inner, c => c.addChained connective (ConditionCall.applyAll inner {})
  | .mode connective, c => { c with mode := connective }

def ConditionCall.applyAll : List ConditionCall → Condition → Condition
  | [], c => c
  | call :: rest, c => ConditionCall.applyAll rest (call.apply c)

def SelectCall.apply : SelectCall → Select → Select
  | .distinct on, s => s.addDistinct on.flatten
  | .columns columns, s => s.addColumns columns
  | .columnSelect select name, s =>
    s.addColumns [aliased (SelectCall.applyAll select {}).toTerm name]
  | .sources sources, s => s.addSources sources
  | .sourceSelect select name, s =>
    s.addSources [aliased (SelectCall.applyAll select {}).toTerm name]
  | .sourceValues rows name, s => s.addSources [aliased (valuesTable rows) name]
  | .join kind target ties, s =>
    s.addJoin (JoinCall.applyAll ties { kind, lateral := false, target })
  | .joinSelect kind lateral select name ties, s =>
    let target := aliased (SelectCall.applyAll select {}).toTerm name
    s.addJoin (JoinCall.applyAll ties { kind, lateral, target })
  | .joinUnion kind union name ties, s =>
    let target := aliased (UnionCall.applyAll union {}).toTerm name
    s.addJoin (JoinCall.applyAll ties { kind, lateral := false, target })
  | .filter condition, s => { s with filter := ConditionCall.applyAll condition s.filter }
  | .groupBy columns, s => s.addGroupBy columns
  | .having condition, s => { s with having := ConditionCall.applyAll condition s.having }
  | .orderBy column words, s => { s with paging := s.paging.addOrder column words }
  | .limit n, s => { s with paging := { s.paging with limit := some n } }
  | .offset n, s => { s with paging := { s.paging with offset := some n } }

def SelectCall.applyAll : List SelectCall → Select → Select
  | [], s => s
  | call :: rest, s => SelectCall.applyAll rest (call.apply s)

def JoinCall.apply : JoinCall → Join → Join
  | .on condition, j => { j with on := ConditionCall.applyAll condition j.on }
  | .usingColumns columns, j => { j with usingColumns := j.usingColumns ++ columns }

def JoinCall.applyAll : List JoinCall → Join → Join
  | [], j => j
  | call :: rest, j => JoinCall.applyAll rest (call.apply j)

def UnionCall.apply : UnionCall → Union → Union
  | .select keepAll select, u => u.addPart keepAll (SelectCall.applyAll select {}).toTerm
  | .union keepAll union, u => u.addPart keepAll (UnionCall.applyAll union {}).toTerm
  | .orderBy column words, u => { u with paging := u.paging.addOrder column words }
  | .limit n, u => { u with paging := { u.paging with limit := some n } }
  | .offset n, u => { u with paging := { u.paging with offset := some n } }

def UnionCall.applyAll : List UnionCall → Union → Union
  | [], u => u
  | call :: rest, u => UnionCall.applyAll rest (call.apply u)

end

theorem ConditionCall.applyAll_append (first second : List ConditionCall) (c : Condition) :
    ConditionCall.applyAll (first ++ second) c =
      ConditionCall.applyAll second (ConditionCall.applyAll first c) := by
  induction first generalizing c with
  | nil => rfl
  | cons call rest ih => exact ih (call.apply c)

def AssignmentCall.apply (call : AssignmentCall) (a : Assignment) : Assignment :=
  match call with
  | .to values => a.addValues (values.map Term.arg)
  | .toRaw values => a.addValues (values.map Term.raw)
  | .select calls => a.addValues [(SelectCall.applyAll calls {}).toTerm.parenthesized]

def Assignment.build (columns : List Term) (calls : List AssignmentCall) : Assignment :=
  calls.foldl (fun a call => call.apply a) { columns }

def UpdateCall.apply (call : UpdateCall) (u : Update) : Update :=
  match call with
  | .table t => { u with table := some t }
  | .set columns values => u.addAssignment (Assignment.build columns values)
  | .sources ts => u.addSources ts
  | .join kind target ties =>
    u.addJoin (JoinCall.applyAll ties { kind, lateral := false, target })
  | .filter condition => { u with filter := ConditionCall.applyAll condition u.filter }
  | .whereCurrentOf cursor => { u with cursor := some cursor }
  | .returning columns => u.addReturning columns

def Update.build (calls : List UpdateCall) : Update :=
  calls.foldl (fun u call => call.apply u) {}

def ConflictCall.apply (call : ConflictCall) (c : Conflict) : Conflict :=
  match call with
  | .filter condition => { c with filter := ConditionCall.applyAll condition c.filter }
  | .doNothing => { c with action := some .nothing }
  | .doUpdate update => { c with action := some (.update (Update.build update)) }

def Conflict.build (target : ConflictTarget) (calls : List ConflictCall) : Conflict :=
  calls.foldl (fun c call => call.apply c) { target }

def InsertCall.apply (call : InsertCall) (i : Insert) : Insert :=
  match call with
  | .into t => { i with table := some t }
  | .columns ts => i.addColumns ts
  | .overriding o => { i with overriding := some o }
  | .defaultValues => { i with defaultValues := true }
  | .value row => i.addRows [row]
  | .values rows => i.addRows rows
  | .select calls => { i with select := some (SelectCall.applyAll calls {}).toTerm }
  | .onConflict targets calls =>
    { i with conflict := some (Conflict.build (.columns targets) calls) }
  | .onConflictOnConstraint name calls =>
    { i with conflict := some (Conflict.build (.constraint name) calls) }
  | .returning ts => i.addReturning ts

def Insert.build (calls : List InsertCall) : Insert :=
  calls.foldl (fun i call => call.apply i) {}

def DeleteCall.apply (call : DeleteCall) (d : Delete) : Delete :=
  match call with
  | .table t => { d with table := some t }
  | .filter condition => { d with filter := ConditionCall.applyAll condition d.filter }
  | .returning columns => d.addReturning columns

def Delete.build (calls : List DeleteCall) : Delete :=
  calls.foldl (fun d call => call.apply d) {}

def Condition.build (calls : List ConditionCall) : Condition := ConditionCall.applyAll calls {}

def Select.build (calls : List SelectCall) : Select := SelectCall.applyAll calls {}

def Union.build (calls : List UnionCall) : Union := UnionCall.applyAll calls {}

def Program.terms : Program → List Term
  | .select calls => (Select.build calls).terms
  | .insert calls => (Insert.build calls).terms
  | .update calls => (Update.build calls).terms
  | .delete calls => (Delete.build calls).terms
  | .union calls => (Union.build calls).terms

def Program.query (p : Program) : Query := compile p.terms

end BoundSql
