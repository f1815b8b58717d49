import BoundSql.Proofs.Contributions

/-! # What calls contribute to a change

Updates, inserts and deletes are built part by part as selects are.  What is given
once, such as the table, is what the last call gives. -/
set_option autoImplicit false
namespace BoundSql

theorem foldl_extended {S C : Type} (apply : S → C → S) (extended : S → List C → S)
    (start : ∀ s, extended s [] = s)
    (step : ∀ s call rest, extended s (call :: rest) = extended (apply s call) rest) (s : S)
    (calls : List C) : calls.foldl apply s = extended s calls := by
  induction calls generalizing s with
  | nil => exact (start s).symm
  | cons call rest ih => rw [List.foldl_cons, ih, step]

def AssignmentCall.terms : AssignmentCall → List Term
  | .to values => values.map Term.arg
  | .toRaw values => values.map Term.raw
  | .select calls => [(Select.build calls).toTerm.parenthesized]

def Assignment.extended (a : Assignment) (calls : List AssignmentCall) : Assignment where
  columns := a.columns
  values := a.values ++ calls.flatMap AssignmentCall.terms

theorem Assignment.build_eq (columns : List Term) (calls : List AssignmentCall) :
    Assignment.build columns calls = Assignment.extended { columns } calls := by
  refine foldl_extended (fun a call => call.apply a) Assignment.extended ?_ ?_ _ calls
  · simp [extended]
  · intro a call rest
    cases call <;>
      simp [extended, AssignmentCall.apply, addValues, AssignmentCall.terms, Select.build]

def UpdateCall.tables : UpdateCall → List Term
  | .table t => [t]
  | _ => []

def UpdateCall.assigned : UpdateCall → List Assignment
  | .set columns values => [Assignment.build columns values]
  | _ => []

def UpdateCall.sourceItems : UpdateCall → List Term
  | .sources ts => ts
  | _ => []

def UpdateCall.joined : UpdateCall → List Join
  | .join kind target ties => [Join.build kind false target ties]
  | _ => []

def UpdateCall.filters : UpdateCall → List ConditionCall
  | .filter condition => condition
  | _ => []

def UpdateCall.cursors : UpdateCall → List Term
  | .whereCurrentOf cursor => [cursor]
  | _ => []

def UpdateCall.returned : UpdateCall → List Term
  | .returning ts => ts
  | _ => []

def Update.extended (u : Update) (calls : List UpdateCall) : Update where
  table := (calls.flatMap UpdateCall.tables).getLast?.or u.table
  assignments := u.assignments ++ calls.flatMap UpdateCall.assigned
  sources := u.sources ++ calls.flatMap UpdateCall.sourceItems
  joins := u.joins ++ calls.flatMap UpdateCall.joined
  filter := ConditionCall.applyAll (calls.flatMap UpdateCall.filters) u.filter
  cursor := (calls.flatMap UpdateCall.cursors).getLast?.or u.cursor
  returning := u.returning ++ calls.flatMap UpdateCall.returned

theorem Update.build_eq (calls : List UpdateCall) :
    Update.build calls = Update.extended {} calls := by
  refine foldl_extended (fun u call => call.apply u) Update.extended ?_ ?_ _ calls
  · simp [extended, ConditionCall.applyAll]
  · intro u call rest
    cases call <;>
      simp [extended, UpdateCall.apply, UpdateCall.tables, UpdateCall.assigned,
        UpdateCall.sourceItems, UpdateCall.joined, UpdateCall.filters, UpdateCall.cursors,
        UpdateCall.returned, ConditionCall.applyAll_append, addAssignment, addSources, addJoin,
        addReturning, Join.build, List.getLast?_cons]

section Parts
variable (calls : List UpdateCall)

theorem Update.table_build :
    (Update.build calls).table = (calls.flatMap UpdateCall.tables).getLast? := by
  rw [build_eq]
  exact Option.or_none

theorem Update.assignments_build :
    (Update.build calls).assignments = calls.flatMap UpdateCall.assigned := by
  rw [build_eq]
  rfl

theorem Update.sources_build :
    (Update.build calls).sources = calls.flatMap UpdateCall.sourceItems := by
  rw [build_eq]
  rfl

theorem Update.joins_build : (Update.build calls).joins = calls.flatMap UpdateCall.joined := by
  rw [build_eq]
  rfl

theorem Update.filter_build :
    (Update.build calls).filter = Condition.build (calls.flatMap UpdateCall.filters) := by
  rw [build_eq]
  rfl

theorem Update.cursor_build :
    (Update.build calls).cursor = (calls.flatMap UpdateCall.cursors).getLast? := by
  rw [build_eq]
  exact Option.or_none

end Parts

def ConflictCall.filters : ConflictCall → List ConditionCall
  | .filter condition => condition
  | _ => []

def ConflictCall.actions : ConflictCall → List ConflictAction
  | .filter _ => []
  | .doNothing => [.nothing]
  | .doUpdate update => [.update (Update.build update)]

def Conflict.extended (c : Conflict) (calls : List ConflictCall) : Conflict where
  target := c.target
  filter := ConditionCall.applyAll (calls.flatMap ConflictCall.filters) c.filter
  action := (calls.flatMap ConflictCall.actions).getLast?.or c.action

theorem Conflict.build_eq (target : ConflictTarget) (calls : List ConflictCall) :
    Conflict.build target calls = Conflict.extended { target } calls := by
  refine foldl_extended (fun c call => call.apply c) Conflict.extended ?_ ?_ _ calls
  · simp [extended, ConditionCall.applyAll]
  · intro c call rest
    cases call <;>
      simp [extended, ConflictCall.apply, ConflictCall.filters, ConflictCall.actions,
        ConditionCall.applyAll_append, List.getLast?_cons]

theorem Conflict.target_build (target : ConflictTarget) (calls : List ConflictCall) :
    (Conflict.build target calls).target = target := by
  rw [build_eq]
  rfl

theorem Conflict.filter_build (target : ConflictTarget) (calls : List ConflictCall) :
    (Conflict.build target calls).filter =
      Condition.build (calls.flatMap ConflictCall.filters) := by
  rw [build_eq]
  rfl

def InsertCall.tables : InsertCall → List Term
  | .into t => [t]
  | _ => []

def InsertCall.columnItems : InsertCall → List Term
  | .columns ts => ts
  | _ => []

def InsertCall.overridings : InsertCall → List Overriding
  | .overriding o => [o]
  | _ => []

def InsertCall.isDefault : InsertCall → Bool
  | .defaultValues => true
  | _ => false

def InsertCall.rowItems : InsertCall → List (List Term)
  | .value row => [row.map Term.arg]
  | .values rows => rows.map fun row => row.map Term.arg
  | _ => []

def InsertCall.selects : InsertCall → List Term
  | .select calls => [(Select.build calls).toTerm]
  | _ => []

def InsertCall.conflicts : InsertCall → List Conflict
  | .onConflict targets calls => [Conflict.build (.columns targets) calls]
  | .onConflictOnConstraint name calls => [Conflict.build (.constraint name) calls]
  | _ => []

def InsertCall.returned : InsertCall → List Term
  | .returning ts => ts
  | _ => []

def Insert.extended (i : Insert) (calls : List InsertCall) : Insert where
  table := (calls.flatMap InsertCall.tables).getLast?.or i.table
  columns := i.columns ++ calls.flatMap InsertCall.columnItems
  overriding := (calls.flatMap InsertCall.overridings).getLast?.or i.overriding
  defaultValues := i.defaultValues || calls.any InsertCall.isDefault
  rows := i.rows ++ calls.flatMap InsertCall.rowItems
  select := (calls.flatMap InsertCall.selects).getLast?.or i.select
  conflict := (calls.flatMap InsertCall.conflicts).getLast?.or i.conflict
  returning := i.returning ++ calls.flatMap InsertCall.returned

theorem Insert.build_eq (calls : List InsertCall) :
    Insert.build calls = Insert.extended {} calls := by
  refine foldl_extended (fun i call => call.apply i) Insert.extended ?_ ?_ _ calls
  · simp [extended]
  · intro i call rest
    cases call <;>
      simp [extended, InsertCall.apply, InsertCall.tables, InsertCall.columnItems,
        InsertCall.overridings, InsertCall.isDefault, InsertCall.rowItems, InsertCall.selects,
        InsertCall.conflicts, InsertCall.returned, addColumns, addRows, addReturning, Select.build,
        List.getLast?_cons]

theorem Insert.rows_build (calls : List InsertCall) :
    (Insert.build calls).rows = calls.flatMap InsertCall.rowItems := by
  rw [build_eq]
  rfl

def DeleteCall.tables : DeleteCall → List Term
  | .table t => [t]
  | _ => []

def DeleteCall.filters : DeleteCall → List ConditionCall
  | .filter condition => condition
  | _ => []

def DeleteCall.returned : DeleteCall → List Term
  | .returning ts => ts
  | _ => []

def Delete.extended (d : Delete) (calls : List DeleteCall) : Delete where
  table := (calls.flatMap DeleteCall.tables).getLast?.or d.table
  filter := ConditionCall.applyAll (calls.flatMap DeleteCall.filters) d.filter
  returning := d.returning ++ calls.flatMap DeleteCall.returned

theorem Delete.build_eq (calls : List DeleteCall) :
    Delete.build calls = Delete.extended {} calls := by
  refine foldl_extended (fun d call => call.apply d) Delete.extended ?_ ?_ _ calls
  · simp [extended, ConditionCall.applyAll]
  · intro d call rest
    cases call <;>
      simp [extended, DeleteCall.apply, DeleteCall.tables, DeleteCall.filters, DeleteCall.returned,
        addReturning, ConditionCall.applyAll_append, List.getLast?_cons]

theorem Delete.filter_build (calls : List DeleteCall) :
    (Delete.build calls).filter = Condition.build (calls.flatMap DeleteCall.filters) := by
  rw [build_eq]
  rfl

end BoundSql
