import BoundSql.Proofs.AssignedPairs
import BoundSql.Proofs.DroppedClauses
import BoundSql.Proofs.ShorterTexts

/-! # The wheres of an update

An update is narrowed by a search condition or by the row on which a cursor stands.  The
two are kept apart, each is written where it is given, and nothing looks at both: an
update has one `where` of its own at most exactly where no predicate is completed or no
cursor is named. -/
set_option autoImplicit false
namespace BoundSql

/-- The clauses that begin with a `where` of the update's own. -/
def Update.wheres (u : Update) : List (List Term) :=
  (if u.filter.isEmpty then [] else [[.word "where", u.filter.toTerm]])
    ++ u.cursor.toList.map fun cursor => [.word "where current of", cursor]

def Update.beforeWheres (u : Update) : List Term :=
  .word "update" :: (u.table.toList ++ listClause "set" (u.assignments.map Assignment.toTerm)
    ++ listClause "from" u.sources ++ u.joins.map Join.toTerm)

theorem Update.terms_eq_wheres (u : Update) :
    u.terms = u.beforeWheres ++ u.wheres.flatten ++ listClause "returning" u.returning := by
  have filter : conditionClause "where" u.filter =
      (if u.filter.isEmpty then [] else [[Term.word "where", u.filter.toTerm]]).flatten := by
    rw [conditionClause]
    split <;> rfl
  have cursor : termClause "where current of" u.cursor =
      (u.cursor.toList.map fun cursor => [Term.word "where current of", cursor]).flatten := by
    cases u.cursor <;> rfl
  rw [terms, filter, cursor, wheres, List.flatten_append, beforeWheres]
  simp only [List.append_assoc, List.cons_append, List.nil_append]

theorem Update.length_wheres_le_one_iff (u : Update) :
    u.wheres.length ≤ 1 ↔ u.filter.isEmpty = true ∨ u.cursor = none := by
  rw [wheres]
  cases u.filter.isEmpty <;> cases u.cursor <;> simp

section Placed
variable {s : Setting} {host : List UpdateCall → Program}
  (place : Embeds Program.update s (.program host))
include place

theorem Embeds.unfiltered_iff (calls : List UpdateCall) :
    (host calls).query = (host (Builder.update.besides .filter calls)).query ↔
      completed (calls.flatMap UpdateCall.filters) = [] := by
  let u := Update.build calls
  let front := u.table.toList ++ listClause "set" (u.assignments.map Assignment.toTerm)
    ++ listClause "from" u.sources ++ u.joins.map Join.toTerm
  let back := termClause "where current of" u.cursor ++ listClause "returning" u.returning
  have whole : u.terms = .word "update" :: (front ++ conditionClause "where" u.filter ++ back) := by
    simp [Update.terms, front, back]
  have bare : (Update.build (Builder.update.besides .filter calls)).terms =
      .word "update" :: (front ++ back) := by
    have noClause : conditionClause "where" {} = [] := rfl
    rw [Update.build_besides]
    simp [Update.terms, Update.without, noClause, front, back, u]
  rw [place.same_query_iff (fun calls => (Update.build calls).shows_layOut) (by decide) whole bare,
    conditionClause_hidden_iff (by decide), Update.filter_build,
    Condition.isEmpty_build_iff_completed]

theorem Embeds.uncursored_iff (calls : List UpdateCall) :
    (host calls).query = (host (Builder.update.besides .cursor calls)).query ↔
      calls.flatMap UpdateCall.cursors = [] := by
  let u := Update.build calls
  let front := u.table.toList ++ listClause "set" (u.assignments.map Assignment.toTerm)
    ++ listClause "from" u.sources ++ u.joins.map Join.toTerm ++ conditionClause "where" u.filter
  let back := listClause "returning" u.returning
  have whole : u.terms =
      .word "update" :: (front ++ termClause "where current of" u.cursor ++ back) := by
    simp [Update.terms, front, back]
  have bare : (Update.build (Builder.update.besides .cursor calls)).terms =
      .word "update" :: (front ++ back) := by
    rw [Update.build_besides]
    simp [Update.terms, Update.without, termClause, front, back, u]
  rw [place.same_query_iff (fun calls => (Update.build calls).shows_layOut) (by decide) whole bare,
    termClause_hidden_iff (by decide), Update.cursor_build, List.getLast?_eq_none_iff]

/-- An update has a `where` for its search condition exactly where a predicate is completed,
and one for its cursor exactly where a cursor is named, each of them whether the other is
there or not.  So one of the two is missing exactly where there is one `where` at most. -/
theorem update_wheres :
    (∃ before after : List Piece, ∀ calls : List UpdateCall,
      (host calls).query = assemble (before
        ++ layOut ((Update.build calls).beforeWheres ++ (Update.build calls).wheres.flatten
          ++ listClause "returning" (Update.build calls).returning)
        ++ after)) ∧
    ∀ calls : List UpdateCall,
      ((Update.build calls).wheres.length ≤ 1 ↔
        completed (calls.flatMap UpdateCall.filters) = [] ∨
          calls.flatMap UpdateCall.cursors = []) ∧
      ((host calls).query = (host (Builder.update.besides .filter calls)).query ↔
        completed (calls.flatMap UpdateCall.filters) = []) ∧
      ((host calls).query = (host (Builder.update.besides .cursor calls)).query ↔
        calls.flatMap UpdateCall.cursors = []) := by
  obtain ⟨before, after, around⟩ := place.exists_around
  refine ⟨⟨before, after, fun calls => ?_⟩, fun calls => ⟨?_, ?_, ?_⟩⟩
  · rw [around, Update.terms_eq_wheres]
  · rw [Update.length_wheres_le_one_iff, Update.filter_build,
      Condition.isEmpty_build_iff_completed, Update.cursor_build, List.getLast?_eq_none_iff]
  · exact place.unfiltered_iff calls
  · exact place.uncursored_iff calls

end Placed

def cursorOnly : List UpdateCall :=
  [.whereCurrentOf (.word "c_old"), .table (.word "films"),
    .filter [.mode .or, .not [.stepwise (.field (.word "kind")) .unfinished]],
    .set [.word "kind"] [.toRaw [.word "'Dramatic'"]], .whereCurrentOf (.word "c_films")]

theorem update_wheres_cursorOnly :
    (Program.update cursorOnly).query.sql =
        "update films set kind = 'Dramatic' where current of c_films" ∧
      (Update.build cursorOnly).wheres.length ≤ 1 ∧
      (Program.update cursorOnly).query =
        (Program.update (Builder.update.besides .filter cursorOnly)).query ∧
      (Program.update cursorOnly).query ≠
        (Program.update (Builder.update.besides .cursor cursorOnly)).query := by
  have place : Embeds Program.update .whole (.program Program.update) := .itself
  obtain ⟨single, unfiltered, uncursored⟩ := (update_wheres place).2 cursorOnly
  have idle : completed (cursorOnly.flatMap UpdateCall.filters) = [] := rfl
  exact ⟨by decide +kernel, single.mpr (.inl idle), unfiltered.mpr idle,
    fun unchanged => absurd (uncursored.mp unchanged) (List.cons_ne_nil _ _)⟩

/-- With a search condition and a cursor an update has two. -/
theorem update_with_both_wheres :
    let calls : List UpdateCall :=
      [.table (.word "t"), .set [.word "a"] [.to [.literal (.int4 1)]],
        .filter [.isNull (.word "b")], .whereCurrentOf (.word "c")]
    (Program.update calls).query.sql =
        "update t set a = $1 where (b is null) where current of c" ∧
      (Update.build calls).wheres.length = 2 := by
  decide +kernel

end BoundSql
