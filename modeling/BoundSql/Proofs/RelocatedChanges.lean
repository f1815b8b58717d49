import BoundSql.Proofs.RelocatedParts

/-! # Parts of a change that stay at their place

As in a select, a call of an update, an insert or a delete puts its part at one
place.  What can be given once is only there if no later call takes its place. -/
set_option autoImplicit false
namespace BoundSql

variable {H : Type}

theorem relocates_assignSelect (columns : List Term) (before after : List AssignmentCall)
    (calls : H → List SelectCall) :
    Relocates (fun x => enclosedPieces "" (layOut (Select.build (calls x)).terms)) fun x =>
      (Assignment.build columns (before ++ .select (calls x) :: after)).toTerm.pieces := by
  let front := before.flatMap AssignmentCall.terms
  let back := after.flatMap AssignmentCall.terms
  let t := fun x => (Select.build (calls x)).toTerm.parenthesized
  have values (x : H) :
      (before ++ .select (calls x) :: after).flatMap AssignmentCall.terms =
        front ++ t x :: back := by
    simp [AssignmentCall.terms, front, back, t]
  have source : Relocates (fun x => (t x).pieces)
      fun x => (Assignment.source ⟨columns, front ++ t x :: back⟩).pieces := by
    have count (x : H) : (front ++ t x :: back).length = front.length + (back.length + 1) := by
      simp
    simp only [Assignment.source, count]
    split
    · exact (Carried.middle front back t).paren "row" comma
    · exact (Carried.middle front back t).commaList
  have whole := (Carried.middle [Assignment.target ⟨columns, []⟩, .word "="] []
    fun x => Assignment.source ⟨columns, front ++ t x :: back⟩).layOut
  have terms (x : H) : (Assignment.build columns (before ++ .select (calls x) :: after)).toTerm =
      .nested ([Assignment.target ⟨columns, []⟩, .word "="] ++
        [Assignment.source ⟨columns, front ++ t x :: back⟩]) := by
    rw [Assignment.build_eq, Assignment.extended, values]
    rfl
  have inner (x : H) : enclosedPieces "" (layOut (Select.build (calls x)).terms) = (t x).pieces :=
    (Term.pieces_parenthesized (Select.build (calls x)).toTerm).symm
  simp only [terms, inner]
  exact source.trans whole

theorem relocates_assigned (columns : List Term) (before after : List UpdateCall)
    (values : H → List AssignmentCall) :
    Relocates (fun x => (Assignment.build columns (values x)).toTerm.pieces) fun x =>
      layOut (Update.build (before ++ .set columns (values x) :: after)).terms := by
  let u := Update.build (before ++ after)
  let back := listClause "from" u.sources ++ u.joins.map Join.toTerm
    ++ conditionClause "where" u.filter ++ termClause "where current of" u.cursor
    ++ listClause "returning" u.returning
  have built (x : H) : Update.build (before ++ .set columns (values x) :: after) =
      { u with assignments := before.flatMap UpdateCall.assigned ++
        Assignment.build columns (values x) :: after.flatMap UpdateCall.assigned } := by
    simp [u, Update.build_eq, Update.extended, UpdateCall.tables, UpdateCall.assigned,
      UpdateCall.sourceItems, UpdateCall.joined, UpdateCall.filters, UpdateCall.cursors,
      UpdateCall.returned]
  have terms (x : H) : (Update.build (before ++ .set columns (values x) :: after)).terms =
      [Term.word "update"] ++ u.table.toList ++ [Term.word "set"] ++
        Term.commaList ((before.flatMap UpdateCall.assigned ++
          Assignment.build columns (values x) :: after.flatMap UpdateCall.assigned).map
            Assignment.toTerm) :: back := by
    simp [built, Update.terms, listClause, back]
  have assignment := ((Carried.middle (before.flatMap UpdateCall.assigned)
    (after.flatMap UpdateCall.assigned)
    fun x => Assignment.build columns (values x)).map Assignment.toTerm).commaList
  simp only [terms]
  exact assignment.trans (Carried.middle _ back _).layOut

theorem relocates_updateJoin (kind : JoinKind) (target : Term) (before after : List UpdateCall)
    (ties : H → List JoinCall) :
    Relocates (fun x => (Join.build kind false target (ties x)).toTerm.pieces) fun x =>
      layOut (Update.build (before ++ .join kind target (ties x) :: after)).terms := by
  let u := Update.build (before ++ after)
  let front := [Term.word "update"] ++ u.table.toList
    ++ listClause "set" (u.assignments.map Assignment.toTerm) ++ listClause "from" u.sources
  let back := conditionClause "where" u.filter ++ termClause "where current of" u.cursor
    ++ listClause "returning" u.returning
  have built (x : H) : Update.build (before ++ .join kind target (ties x) :: after) =
      { u with joins := before.flatMap UpdateCall.joined ++
        Join.build kind false target (ties x) :: after.flatMap UpdateCall.joined } := by
    simp [u, Update.build_eq, Update.extended, UpdateCall.tables, UpdateCall.assigned,
      UpdateCall.sourceItems, UpdateCall.joined, UpdateCall.filters, UpdateCall.cursors,
      UpdateCall.returned]
  have terms (x : H) : (Update.build (before ++ .join kind target (ties x) :: after)).terms =
      front ++ (before.flatMap UpdateCall.joined ++
        Join.build kind false target (ties x) :: after.flatMap UpdateCall.joined).map
          Join.toTerm ++ back := by
    simp [built, Update.terms, front, back]
  have place := ((Carried.middle (before.flatMap UpdateCall.joined)
    (after.flatMap UpdateCall.joined)
    fun x => Join.build kind false target (ties x)).map Join.toTerm).within front back
  simp only [terms]
  exact place.layOut

theorem relocates_conflictFilter (columns : List Term) (before after : List ConflictCall)
    {calls : H → List ConditionCall}
    (nonempty : ∀ x, (Condition.build (before.flatMap ConflictCall.filters ++ calls x ++
      after.flatMap ConflictCall.filters)).isEmpty = false) :
    Relocates
      (fun x => layOut ((Condition.build (before.flatMap ConflictCall.filters ++ calls x ++
        after.flatMap ConflictCall.filters)).terms false))
      fun x => (Conflict.build (.columns columns)
        (before ++ .filter (calls x) :: after)).toTerm.pieces := by
  let actions := Conflict.actionTerms
    ⟨.columns columns, {}, ((before ++ after).flatMap ConflictCall.actions).getLast?⟩
  have terms (x : H) :
      (Conflict.build (.columns columns) (before ++ .filter (calls x) :: after)).toTerm =
        .nested ([Term.word "on conflict"] ++
          (if columns.isEmpty then [] else [Term.parenList columns]) ++
          conditionClause "where" (Condition.build (before.flatMap ConflictCall.filters ++
            calls x ++ after.flatMap ConflictCall.filters)) ++ actions) := by
    simp [Conflict.build_eq, Conflict.extended, Conflict.toTerm, Conflict.targetTerms,
      ConflictCall.filters, ConflictCall.actions, Condition.build, actions, Conflict.actionTerms]
  have clause := (carried_conditionClause "where" nonempty).within
    ([Term.word "on conflict"] ++ (if columns.isEmpty then [] else [Term.parenList columns]))
    actions
  simp only [terms]
  exact clause.layOut

theorem relocates_doUpdate (target : ConflictTarget) (before after : List ConflictCall)
    (last : after.flatMap ConflictCall.actions = []) (update : H → List UpdateCall) :
    Relocates (fun x => layOut (Update.build (update x)).terms) fun x =>
      (Conflict.build target (before ++ .doUpdate (update x) :: after)).toTerm.pieces := by
  let targetTerms := Conflict.targetTerms
    ⟨target, Condition.build ((before ++ after).flatMap ConflictCall.filters), none⟩
  have terms (x : H) :
      (Conflict.build target (before ++ .doUpdate (update x) :: after)).toTerm =
        .nested ([Term.word "on conflict"] ++ targetTerms ++ [Term.word "do"] ++
          [Term.nested (Update.build (update x)).terms]) := by
    cases target <;>
      simp [Conflict.build_eq, Conflict.extended, Conflict.toTerm, Conflict.targetTerms,
        ConflictCall.filters, ConflictCall.actions, Condition.build, targetTerms,
        Conflict.actionTerms, last]
  have action := Carried.middle ([Term.word "on conflict"] ++ targetTerms ++ [Term.word "do"]) []
    fun x => Term.nested (Update.build (update x)).terms
  simp only [terms]
  exact action.layOut

theorem relocates_insertSelect (before after : List InsertCall)
    (last : after.flatMap InsertCall.selects = []) (calls : H → List SelectCall) :
    Relocates (fun x => layOut (Select.build (calls x)).terms) fun x =>
      layOut (Insert.build (before ++ .select (calls x) :: after)).terms := by
  let i := Insert.build (before ++ after)
  let front := [Term.word "insert"] ++ termClause "into" i.table
    ++ (if i.columns.isEmpty then [] else [Term.parenList i.columns]) ++ i.overridingTerms
    ++ (if i.defaultValues then [Term.word "default values"] else [])
    ++ (if i.rows.isEmpty then [] else [Term.word "values", rowsTerm i.rows])
  let back := (i.conflict.map Conflict.toTerm).toList ++ listClause "returning" i.returning
  have built (x : H) : Insert.build (before ++ .select (calls x) :: after) =
      { i with select := some (Select.build (calls x)).toTerm } := by
    simp [i, Insert.build_eq, Insert.extended, InsertCall.tables, InsertCall.columnItems,
      InsertCall.overridings, InsertCall.isDefault, InsertCall.rowItems, InsertCall.selects,
      InsertCall.conflicts, InsertCall.returned, last]
  have terms (x : H) : (Insert.build (before ++ .select (calls x) :: after)).terms =
      front ++ (Select.build (calls x)).toTerm :: back := by
    simp [built, Insert.terms, front, back, Insert.overridingTerms]
  simp only [terms]
  exact (Carried.middle front back fun x => (Select.build (calls x)).toTerm).layOut

/-- The last conflict of an insert has one place among its terms. -/
theorem Insert.exists_conflictPlace (before after : List InsertCall) :
    ∃ front back : List Term, ∀ {call : InsertCall} {c : Conflict}, call.conflicts = [c] →
      (Insert.build (before ++ call :: after)).terms =
        front ++ (((after.flatMap InsertCall.conflicts).getLast?.or (some c)).map
          Conflict.toTerm).toList ++ back := by
  let i := Insert.build (before ++ after)
  refine ⟨[Term.word "insert"] ++ termClause "into" i.table
    ++ (if i.columns.isEmpty then [] else [Term.parenList i.columns]) ++ i.overridingTerms
    ++ (if i.defaultValues then [Term.word "default values"] else [])
    ++ (if i.rows.isEmpty then [] else [Term.word "values", rowsTerm i.rows]) ++ i.select.toList,
    listClause "returning" i.returning, ?_⟩
  intro call c one
  have given : call.tables = [] ∧ call.columnItems = [] ∧ call.overridings = [] ∧
      call.isDefault = false ∧ call.rowItems = [] ∧ call.selects = [] ∧ call.returned = [] := by
    cases call <;> simp [InsertCall.conflicts] at one <;>
      exact ⟨rfl, rfl, rfl, rfl, rfl, rfl, rfl⟩
  obtain ⟨tables, columns, overridings, isDefault, rows, selects, returned⟩ := given
  have built : Insert.build (before ++ call :: after) =
      { i with conflict := (after.flatMap InsertCall.conflicts).getLast?.or (some c) } := by
    simp [i, Insert.build_eq, Insert.extended, one, tables, columns, overridings, isDefault, rows,
      selects, returned, List.getLast?_append, List.getLast?_cons]
  simp [built, Insert.terms, Insert.overridingTerms]

theorem relocates_conflict (before after : List InsertCall)
    (last : after.flatMap InsertCall.conflicts = []) {call : H → InsertCall} {c : H → Conflict}
    (conflict : ∀ x, (call x).conflicts = [c x]) :
    Relocates (fun x => (c x).toTerm.pieces) fun x =>
      layOut (Insert.build (before ++ call x :: after)).terms := by
  obtain ⟨front, back, placed⟩ := Insert.exists_conflictPlace before after
  have terms (x : H) : (Insert.build (before ++ call x :: after)).terms =
      front ++ (c x).toTerm :: back := by
    rw [placed (conflict x), last]
    simp
  simp only [terms]
  exact (Carried.middle front back fun x => (c x).toTerm).layOut

end BoundSql
