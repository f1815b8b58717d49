import BoundSql.Proofs.CallValues
import BoundSql.Proofs.ChangeContributions

/-! # Arguments stand in the order of the clauses

Calls on a statement that changes a table add to its clauses or replace what they
hold.  Together with what calls add to the other statements this gives the
arguments of every query: those of the surviving calls, clause by clause in the
order of the text. -/
set_option autoImplicit false
namespace BoundSql

theorem Assignment.slots_build (columns : List Term) (calls : List AssignmentCall) :
    (Assignment.build columns calls).toTerm.slots =
      columns.flatMap Term.slots ++ calls.flatMap AssignmentCall.arguments := by
  have run : ∀ a : Assignment, (calls.foldl (fun a call => call.apply a) a).toTerm.slots =
      a.toTerm.slots ++ calls.flatMap AssignmentCall.arguments := by
    induction calls with
    | nil => simp
    | cons call rest ih =>
      intro a
      rw [List.foldl_cons, ih, List.flatMap_cons, ← List.append_assoc]
      congr 1
      match call with
      | .to values => simp [AssignmentCall.apply, addValues, slots_toTerm,
          AssignmentCall.arguments, List.flatMap_map]
      | .toRaw values => simp [AssignmentCall.apply, addValues, slots_toTerm,
          AssignmentCall.arguments, List.flatMap_map]
      | .select calls => simp [AssignmentCall.apply, addValues, slots_toTerm,
          AssignmentCall.arguments, slots_select]
  rw [Assignment.build, run, slots_toTerm]
  simp

theorem Update.valuesIn_filter (u : Update) (clause : UpdateClause) {c : Condition}
    {trace : List (ConditionClause × Value)}
    (grown : ∀ part, c.valuesIn part = u.filter.valuesIn part ++ valuesAt part trace) :
    ({ u with filter := c } : Update).valuesIn clause =
      u.valuesIn clause ++ valuesAt clause (relabel .filter trace) := by
  refine grown_relabel Update.valuesIn (fun _ _ equal => UpdateClause.filter.inj equal) ?_ ?_ clause
  · exact grown
  · intro other differs
    cases other with
    | filter part => exact absurd rfl (differs part)
    | _ => rfl

theorem UpdateCall.valuesIn_apply (call : UpdateCall) (u : Update) (clause : UpdateClause) :
    (call.apply u).valuesIn clause =
      (if call.replaces = some clause then [] else u.valuesIn clause)
        ++ valuesAt clause call.trace := by
  cases call with
  | table t => cases clause <;> simp [apply, Update.valuesIn, replaces, trace]
  | set targets values =>
    cases clause <;>
      simp [apply, Update.addAssignment, Update.valuesIn, replaces, trace, Assignment.slots_build]
  | sources ts =>
    cases clause <;> simp [apply, Update.addSources, Update.valuesIn, replaces, trace]
  | join kind target ties =>
    cases clause <;> simp [apply, Update.addJoin, Update.valuesIn, replaces, trace, slots_join]
  | filter condition =>
    exact u.valuesIn_filter clause (ConditionCall.valuesIn_applyAll condition u.filter)
  | whereCurrentOf t => cases clause <;> simp [apply, Update.valuesIn, replaces, trace]
  | returning ts =>
    cases clause <;> simp [apply, Update.addReturning, Update.valuesIn, replaces, trace]

theorem UpdateCall.replacing : Replacing UpdateCall.trace UpdateCall.replaces := by
  refine ⟨?_, ?_⟩
  · intro call own clause replaced differs
    cases call <;> simp only [replaces, Option.some.injEq, reduceCtorEq] at replaced
    · subst replaced
      simp [trace, differs]
    · subst replaced
      simp [trace, differs]
  · intro call later clause replaced differs
    have fixed : clause = .table ∨ clause = .cursor := by
      cases later <;> simp_all [replaces]
    cases call with
    | filter condition =>
      rcases fixed with rfl | rfl
      · exact valuesAt_relabel_other (fun _ => UpdateClause.noConfusion) _
      · exact valuesAt_relabel_other (fun _ => UpdateClause.noConfusion) _
    | _ => rcases fixed with rfl | rfl <;> simp_all [replaces, trace]

theorem Update.slots_build (calls : List UpdateCall) :
    (Update.build calls).terms.flatMap Term.slots = updateArguments calls := by
  have fresh : ∀ clause, Update.valuesIn clause {} = [] := by
    intro clause
    cases clause with
    | filter part => cases part <;> rfl
    | _ => rfl
  rw [Update.slots_terms]
  exact UpdateCall.replacing.arrange_foldl UpdateCall.apply Update.valuesIn
    UpdateCall.valuesIn_apply calls
    fresh
    updateOrder

theorem Conflict.valuesIn_filter (x : Conflict) (clause : ConflictClause) {c : Condition}
    {trace : List (ConditionClause × Value)}
    (grown : ∀ part, c.valuesIn part = x.filter.valuesIn part ++ valuesAt part trace) :
    ({ x with filter := c } : Conflict).valuesIn clause =
      x.valuesIn clause ++ valuesAt clause (relabel .filter trace) := by
  refine grown_relabel Conflict.valuesIn (fun _ _ equal => ConflictClause.filter.inj equal) ?_ ?_
    clause
  · exact grown
  · intro other differs
    cases other with
    | filter part => exact absurd rfl (differs part)
    | _ => rfl

theorem ConflictCall.valuesIn_apply (call : ConflictCall) (x : Conflict)
    (clause : ConflictClause) :
    (call.apply x).valuesIn clause =
      (if call.replaces = some clause then [] else x.valuesIn clause)
        ++ valuesAt clause call.trace := by
  cases call with
  | filter condition =>
    exact x.valuesIn_filter clause (ConditionCall.valuesIn_applyAll condition x.filter)
  | doNothing =>
    cases clause <;> simp [apply, Conflict.valuesIn, Conflict.actionTerms, replaces, trace]
  | doUpdate calls =>
    cases clause <;>
      simp [apply, Conflict.valuesIn, Conflict.actionTerms, replaces, trace, Update.slots_build]

theorem ConflictCall.replacing : Replacing ConflictCall.trace ConflictCall.replaces := by
  refine ⟨?_, ?_⟩
  · intro call own clause replaced differs
    cases call <;> simp only [replaces, Option.some.injEq, reduceCtorEq] at replaced
    · rfl
    · subst replaced
      simp [trace, differs]
  · intro call later clause replaced differs
    have fixed : clause = .action := by
      cases later <;> simp_all [replaces]
    subst fixed
    cases call with
    | filter condition => exact valuesAt_relabel_other (fun _ => ConflictClause.noConfusion) _
    | _ => simp_all [replaces]

theorem Conflict.slots_build (target : ConflictTarget) (calls : List ConflictCall) :
    (Conflict.build target calls).toTerm.slots =
      target.values ++ conflictArguments target.hasFilter calls := by
  have fresh : ∀ clause, Conflict.valuesIn clause { target } = [] := by
    intro clause
    cases clause with
    | filter part => cases part <;> rfl
    | action => rfl
  rw [Conflict.slots_toTerm, Conflict.target_build, conflictArguments, Conflict.build,
    ConflictCall.replacing.arrange_foldl ConflictCall.apply Conflict.valuesIn
      ConflictCall.valuesIn_apply calls fresh]

theorem InsertCall.valuesIn_apply (call : InsertCall) (i : Insert) (clause : InsertClause) :
    (call.apply i).valuesIn clause =
      (if call.replaces = some clause then [] else i.valuesIn clause)
        ++ valuesAt clause call.trace := by
  cases call with
  | into t => cases clause <;> simp [apply, Insert.valuesIn, replaces, trace]
  | columns ts =>
    cases clause <;> simp [apply, Insert.addColumns, Insert.valuesIn, replaces, trace]
  | overriding o => cases clause <;> simp [apply, Insert.valuesIn, replaces, trace]
  | defaultValues => cases clause <;> simp [apply, Insert.valuesIn, replaces, trace]
  | value row =>
    cases clause <;>
      simp [apply, Insert.addRows, Insert.valuesIn, replaces, trace, List.flatMap_map]
  | values rows =>
    cases clause <;>
      simp [apply, Insert.addRows, Insert.valuesIn, replaces, trace, List.flatMap_map]
  | select calls =>
    cases clause <;> simp [apply, Insert.valuesIn, replaces, trace, slots_select]
  | onConflict targets calls =>
    cases clause <;>
      simp [apply, Insert.valuesIn, replaces, trace, Conflict.slots_build,
        ConflictTarget.values, ConflictTarget.hasFilter]
  | onConflictOnConstraint name calls =>
    cases clause <;>
      simp [apply, Insert.valuesIn, replaces, trace, Conflict.slots_build,
        ConflictTarget.values, ConflictTarget.hasFilter]
  | returning ts =>
    cases clause <;> simp [apply, Insert.addReturning, Insert.valuesIn, replaces, trace]

theorem InsertCall.replacing : Replacing InsertCall.trace InsertCall.replaces := by
  refine ⟨?_, ?_⟩
  · intro call own clause replaced differs
    cases call <;> simp_all [replaces, trace]
  · intro call later clause replaced differs
    have fixed : clause = .table ∨ clause = .select ∨ clause = .conflict := by
      cases later <;> simp_all [replaces]
    cases call <;> rcases fixed with rfl | rfl | rfl <;> simp_all [replaces, trace]

theorem Insert.slots_build (calls : List InsertCall) :
    (Insert.build calls).terms.flatMap Term.slots = insertArguments calls := by
  have fresh : ∀ clause, Insert.valuesIn clause {} = [] := by
    intro clause
    cases clause <;> rfl
  rw [Insert.slots_terms]
  exact InsertCall.replacing.arrange_foldl InsertCall.apply Insert.valuesIn
    InsertCall.valuesIn_apply calls
    fresh
    insertOrder

theorem Delete.valuesIn_filter (d : Delete) (clause : DeleteClause) {c : Condition}
    {trace : List (ConditionClause × Value)}
    (grown : ∀ part, c.valuesIn part = d.filter.valuesIn part ++ valuesAt part trace) :
    ({ d with filter := c } : Delete).valuesIn clause =
      d.valuesIn clause ++ valuesAt clause (relabel .filter trace) := by
  refine grown_relabel Delete.valuesIn (fun _ _ equal => DeleteClause.filter.inj equal) ?_ ?_ clause
  · exact grown
  · intro other differs
    cases other with
    | filter part => exact absurd rfl (differs part)
    | _ => rfl

theorem DeleteCall.valuesIn_apply (call : DeleteCall) (d : Delete) (clause : DeleteClause) :
    (call.apply d).valuesIn clause =
      (if call.replaces = some clause then [] else d.valuesIn clause)
        ++ valuesAt clause call.trace := by
  cases call with
  | table t => cases clause <;> simp [apply, Delete.valuesIn, replaces, trace]
  | filter condition =>
    exact d.valuesIn_filter clause (ConditionCall.valuesIn_applyAll condition d.filter)
  | returning ts =>
    cases clause <;> simp [apply, Delete.addReturning, Delete.valuesIn, replaces, trace]

theorem DeleteCall.replacing : Replacing DeleteCall.trace DeleteCall.replaces := by
  refine ⟨?_, ?_⟩
  · intro call own clause replaced differs
    cases call <;> simp only [replaces, Option.some.injEq, reduceCtorEq] at replaced
    subst replaced
    simp [trace, differs]
  · intro call later clause replaced differs
    have fixed : clause = .table := by
      cases later <;> simp_all [replaces]
    subst fixed
    cases call with
    | filter condition => exact valuesAt_relabel_other (fun _ => DeleteClause.noConfusion) _
    | _ => simp_all [replaces, trace]

theorem Delete.slots_build (calls : List DeleteCall) :
    (Delete.build calls).terms.flatMap Term.slots = deleteArguments calls := by
  have fresh : ∀ clause, Delete.valuesIn clause {} = [] := by
    intro clause
    cases clause with
    | filter part => cases part <;> rfl
    | _ => rfl
  rw [Delete.slots_terms]
  exact DeleteCall.replacing.arrange_foldl DeleteCall.apply Delete.valuesIn
    DeleteCall.valuesIn_apply calls
    fresh
    deleteOrder

/-- The arguments of a query are those that the surviving calls bind, in the order
of the clauses of the text, whatever the order of the calls. -/
theorem params_in_clause_order (p : Program) : p.query.params = p.arguments := by
  rw [Program.query, params_compile]
  cases p with
  | select calls =>
    have whole := slots_select calls
    rw [Select.toTerm, Term.slots_nested] at whole
    exact whole
  | insert calls => exact Insert.slots_build calls
  | update calls => exact Update.slots_build calls
  | delete calls => exact Delete.slots_build calls
  | union calls =>
    have whole := Union.slots_eq_arrange (UnionCall.valuesIn_applyAll calls {})
    rw [Union.toTerm, Term.slots_nested] at whole
    exact whole

example : (Program.select [.filter [.chained .or [.compare (.word "a") .eq (.literal (.int4 1))],
    .compare (.word "b") .eq (.literal (.int4 2))], .columns [.bound (.int4 3)]]).query.params =
      [.int4 3, .int4 2, .int4 1] := rfl

end BoundSql
