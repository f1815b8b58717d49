import BoundSql.Proofs.DroppedClauses
import BoundSql.Proofs.RenderedClauses
import BoundSql.Proofs.ShorterTexts
import BoundSql.Proofs.Substatements

/-! # The filter of a conflict

The filter of a conflict tells for which rows the index on its columns was made.  A
conflict at a constraint leaves it out, with its arguments.  A conflict at columns writes
it behind the place of its columns, also where no columns were given. -/
set_option autoImplicit false
namespace BoundSql

def columnsTarget (columns : List Term) (filters : List ConditionCall) : List Part :=
  .word "on conflict"
    :: ((if columns.isEmpty then [] else [.bracketed (columns.map Term.pieces)])
      ++ conditionPart "where" filters)

theorem Conflict.constraint_besides_filter (name : Term) (calls : List ConflictCall) :
    (Conflict.build (.constraint name) (Builder.conflict.besides .filter calls)).toTerm =
      (Conflict.build (.constraint name) calls).toTerm := by
  have target := Conflict.target_build (.constraint name) calls
  rw [Conflict.build_besides]
  simp only [toTerm, targetTerms, without, target, actionTerms]

theorem Conflict.columns_pieces {c : Conflict} {columns : List Term}
    (target : c.target = .columns columns) :
    c.toTerm.pieces = layOut (.word "on conflict" ::
      ((if columns.isEmpty then [] else [.parenList columns]) ++ conditionClause "where" c.filter
        ++ c.actionTerms)) := by
  rw [toTerm, targetTerms, target]
  rfl

theorem Conflict.shows_toTerm (c : Conflict) : shows c.toTerm.pieces = true := by
  rw [toTerm]
  simp only [List.append_assoc]
  exact shows_joinPieces " " [] _ rfl

theorem visible_columnsTarget {columns : List Term} {filters : List ConditionCall}
    (columnsRender : columns.all Term.renders = true)
    (filtersRender : ConditionCall.rendersAll filters = true) :
    visible (.word "on conflict" :: ((if columns.isEmpty then [] else [.parenList columns])
        ++ conditionClause "where" (Condition.build filters))) =
      (columnsTarget columns filters).map Part.pieces := by
  have named : List.Forall₂ Shown (if columns.isEmpty then [] else [.parenList columns])
      (if columns.isEmpty then [] else [.bracketed (columns.map Term.pieces)]) := by
    refine shown_unless fun nonempty =>
      .cons (.bracketed rfl ?_ (Entries.ofAll columnsRender).all) .nil
    simpa using nonempty
  exact visible_shown (.cons (.word (by decide))
    (List.rel_append named (shown_conditionPart (by decide) filtersRender)))

section Insert
variable (before after : List InsertCall)

/-- A conflict has no part in an insert that is given another one later. -/
theorem Insert.query_congr_conflict {call other : InsertCall} {c d : Conflict}
    (first : call.conflicts = [c]) (second : other.conflicts = [d])
    (alike : after.flatMap InsertCall.conflicts = [] → c.toTerm = d.toTerm) :
    (Program.insert (before ++ call :: after)).query =
      (Program.insert (before ++ other :: after)).query := by
  obtain ⟨front, back, terms⟩ := Insert.exists_conflictPlace before after
  rw [Program.query, Program.query, Program.terms, Program.terms, terms first, terms second]
  cases last : (after.flatMap InsertCall.conflicts).getLast? with
  | none => rw [Option.none_or, Option.none_or, Option.map_some, Option.map_some,
      alike (List.getLast?_eq_none_iff.mp last)]
  | some later => rfl

theorem Insert.exists_aroundColumns (last : after.flatMap InsertCall.conflicts = []) :
    ∃ front back : List Piece, ∀ columns calls,
      (Program.insert (before ++ .onConflict columns calls :: after)).query =
        assemble (front ++ layOut (.word "on conflict" ::
          ((if columns.isEmpty then [] else [.parenList columns])
            ++ conditionClause "where" (Condition.build (calls.flatMap ConflictCall.filters))
            ++ (Conflict.build (.columns columns) calls).actionTerms)) ++ back) := by
  have place : Relocates
      (fun x : List Term × List ConflictCall => (Conflict.build (.columns x.1) x.2).toTerm.pieces)
      fun x => layOut (Insert.build (before ++ .onConflict x.1 x.2 :: after)).terms :=
    relocates_conflict before after last fun _ => rfl
  obtain ⟨front, back, around⟩ := place
  refine ⟨front, back, fun columns calls => ?_⟩
  rw [Program.query_eq, ← Conflict.filter_build (.columns columns),
    ← Conflict.columns_pieces (Conflict.target_build _ _)]
  exact congrArg assemble (around (columns, calls) (Conflict.shows_toTerm _))

theorem Insert.constraint_unfiltered (name : Term) (calls : List ConflictCall) :
    (Program.insert (before ++ .onConflictOnConstraint name calls :: after)).query =
      (Program.insert (before ++
        .onConflictOnConstraint name (Builder.conflict.besides .filter calls) :: after)).query :=
  Insert.query_congr_conflict before after rfl rfl fun _ =>
    (Conflict.constraint_besides_filter name calls).symm

theorem Insert.columns_unfiltered_iff (columns : List Term) (calls : List ConflictCall) :
    (Program.insert (before ++ .onConflict columns calls :: after)).query =
        (Program.insert (before ++
          .onConflict columns (Builder.conflict.besides .filter calls) :: after)).query ↔
      completed (calls.flatMap ConflictCall.filters) = [] ∨
        after.flatMap InsertCall.conflicts ≠ [] := by
  by_cases last : after.flatMap InsertCall.conflicts = []
  · obtain ⟨front, back, around⟩ := Insert.exists_aroundColumns before after last
    have bare : Condition.build ((Builder.conflict.besides .filter calls).flatMap
        ConflictCall.filters) = {} := by
      rw [← Conflict.filter_build (.columns columns), Conflict.build_besides]
      rfl
    have noClause : conditionClause "where" {} = [] := rfl
    have action : (Conflict.build (.columns columns)
        (Builder.conflict.besides .filter calls)).actionTerms =
          (Conflict.build (.columns columns) calls).actionTerms := by
      rw [Conflict.build_besides]
      rfl
    rw [around, around, bare, noClause, action, List.append_nil,
      assemble_terms_iff front back (by decide),
      conditionClause_hidden_iff (by decide), Condition.isEmpty_build_iff_completed]
    simp [last]
  · exact iff_of_true
      (Insert.query_congr_conflict before after rfl rfl fun nothing => absurd nothing last)
      (.inr last)

/-- A conflict at a constraint is written as it is without its filter, arguments and all.
A conflict at columns writes its filter behind them, or where they would stand: whatever
its columns are, it is written as it is without the filter only if no predicate of it is
completed, or if another conflict takes its place. -/
theorem conflict_filter_written :
    (∀ name calls,
      (Program.insert (before ++ .onConflictOnConstraint name calls :: after)).query =
        (Program.insert (before ++
          .onConflictOnConstraint name (Builder.conflict.besides .filter calls) :: after)).query) ∧
    (∀ columns calls,
      (Program.insert (before ++ .onConflict columns calls :: after)).query =
          (Program.insert (before ++
            .onConflict columns (Builder.conflict.besides .filter calls) :: after)).query ↔
        completed (calls.flatMap ConflictCall.filters) = [] ∨
          after.flatMap InsertCall.conflicts ≠ []) ∧
    (after.flatMap InsertCall.conflicts = [] →
      ∃ front back : List Piece, ∀ columns calls, columns.all Term.renders = true →
        ConditionCall.rendersAll (calls.flatMap ConflictCall.filters) = true →
          (Program.insert (before ++ .onConflict columns calls :: after)).query =
            assemble (front
              ++ spaced ((columnsTarget columns
                (calls.flatMap ConflictCall.filters)).map Part.pieces
                ++ visible (Conflict.build (.columns columns) calls).actionTerms)
              ++ back)) := by
  refine ⟨Insert.constraint_unfiltered before after, Insert.columns_unfiltered_iff before after, ?_⟩
  intro last
  obtain ⟨front, back, around⟩ := Insert.exists_aroundColumns before after last
  refine ⟨front, back, fun columns calls columnsRender filtersRender => ?_⟩
  rw [around, ← List.cons_append, layOut_eq_spaced, visible_append,
    visible_columnsTarget columnsRender filtersRender]

end Insert

def laterVisits : List ConflictCall :=
  [.filter [.compare (.word "day") .gt (.literal (.int4 9))], .doNothing]

theorem conflict_filter_written_laterVisits :
    let before : List InsertCall := [.into (.word "visits"), .value [.word "x"]]
    let after : List InsertCall := [.returning [.word "day"]]
    (Program.insert (before ++ .onConflict [.word "name"] laterVisits :: after)).query.sql =
        "insert into visits values ($1) on conflict (name) where (day > $2) do nothing returning day" ∧
      (Program.insert (before ++ .onConflict [] laterVisits :: after)).query.sql =
        "insert into visits values ($1) on conflict where (day > $2) do nothing returning day" ∧
      (Program.insert (before ++ .onConflictOnConstraint (.word "u") laterVisits :: after)).query =
        (Program.insert (before ++
          .onConflictOnConstraint (.word "u") [.doNothing] :: after)).query ∧
      (∃ front back : List Piece,
        (Program.insert (before ++ .onConflict [] laterVisits :: after)).query =
          assemble (front
            ++ spaced ((columnsTarget [] (laterVisits.flatMap ConflictCall.filters)).map Part.pieces
              ++ visible (Conflict.build (.columns []) laterVisits).actionTerms)
            ++ back)) := by
  intro before after
  obtain ⟨unfiltered, -, written⟩ := conflict_filter_written before after
  obtain ⟨front, back, placed⟩ := written rfl
  refine ⟨by decide +kernel, by decide +kernel, unfiltered _ laterVisits, front, back, ?_⟩
  exact placed [] laterVisits rfl (by decide +kernel)

/-- A conflict without columns has its filter where they would stand. -/
theorem conflict_filter_without_columns :
    (Program.insert [.into (.word "t"), .value [.literal (.int4 1)],
        .onConflict [] [.filter [.isNull (.word "d")], .doNothing]]).query.sql =
        "insert into t values ($1) on conflict where (d is null) do nothing" ∧
      (Program.insert [.into (.word "t"), .value [.literal (.int4 1)],
        .onConflict [] [.doNothing]]).query.sql =
        "insert into t values ($1) on conflict do nothing" := by
  decide +kernel

end BoundSql
