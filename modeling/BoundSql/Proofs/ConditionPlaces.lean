import BoundSql.Proofs.CompletedPredicates
import BoundSql.Proofs.DroppedClauses

/-! # Places of conditions

A select has a condition behind its `where` and one behind its `having`, an update and a
delete have one behind their `where`.  Each place belongs to one clause: the calls of the
clause come to the condition there, and the other calls to the terms around it. -/
set_option autoImplicit false
namespace BoundSql

def filterClause (keyword : String) (calls : List ConditionCall) : List Term :=
  if (completed calls).isEmpty then [] else [.word keyword, (Condition.build calls).toTerm]

theorem conditionClause_build (keyword : String) (calls : List ConditionCall) :
    conditionClause keyword (Condition.build calls) = filterClause keyword calls := by
  have empty := Condition.isEmpty_build_iff_completed calls
  rw [conditionClause, filterClause]
  by_cases idle : completed calls = []
  · rw [if_pos (empty.mpr idle), idle]
    rfl
  · have busy : (completed calls).isEmpty = false := by simpa using idle
    rw [if_neg (mt empty.mp idle), busy]
    rfl

structure KeywordPlace (b : Builder) where
  keyword : String
  clause : Clause
  call : List ConditionCall → b.Call
  conditions : b.Call → List ConditionCall
  build : List b.Call → b.State
  put : b.State → Condition → b.State
  opening : String
  terms : b.State → List Term
  opening_ne_empty : opening ≠ ""
  keyword_ne_empty : keyword ≠ ""
  clause_call : ∀ calls, b.clause (call calls) = clause
  conditions_call : ∀ calls, conditions (call calls) = calls
  conditions_other : ∀ call, b.clause call ≠ clause → conditions call = []
  build_put : ∀ calls, build calls =
    put (build (b.besides clause calls)) (Condition.build (calls.flatMap conditions))
  terms_put : ∀ s, ∃ front back, ∀ c,
    terms (put s c) = .word opening :: (front ++ conditionClause keyword c ++ back)

namespace KeywordPlace
variable {b : Builder} (place : KeywordPlace b)

theorem conditions_besides (calls : List b.Call) :
    (b.besides place.clause calls).flatMap place.conditions = [] := by
  rw [List.flatMap_eq_nil_iff]
  intro call member
  have other := (List.mem_filter.mp member).2
  exact place.conditions_other call (by simpa using other)

theorem besides_calls (before after : List b.Call) (calls : List (List ConditionCall)) :
    b.besides place.clause (before ++ calls.map place.call ++ after) =
      b.besides place.clause (before ++ after) := by
  have own : b.besides place.clause (calls.map place.call) = [] := by
    rw [Builder.besides, List.filter_eq_nil_iff]
    intro call member
    obtain ⟨condition, -, rfl⟩ := List.mem_map.mp member
    simp [place.clause_call]
  simp only [Builder.besides, List.filter_append] at own ⊢
  rw [own, List.append_nil]

/-- The keyword and its condition have one place among the terms of the other calls. -/
theorem exists_terms (before after : List b.Call) :
    ∃ front back,
      place.terms (place.build (b.besides place.clause (before ++ after))) =
        .word place.opening :: (front ++ back) ∧
      ∀ calls : List (List ConditionCall),
        place.terms (place.build (before ++ calls.map place.call ++ after)) =
          .word place.opening :: (front ++ filterClause place.keyword
            (before.flatMap place.conditions ++ calls.flatten ++ after.flatMap place.conditions)
              ++ back) := by
  obtain ⟨front, back, split⟩ :=
    place.terms_put (place.build (b.besides place.clause (before ++ after)))
  refine ⟨front, back, ?_, ?_⟩
  · have bare := place.build_put (b.besides place.clause (before ++ after))
    rw [b.besides_idempotent, place.conditions_besides] at bare
    rw [bare, split]
    exact congrArg (fun ts => Term.word place.opening :: (ts ++ back)) (List.append_nil front)
  · intro calls
    have given : (calls.map place.call).flatMap place.conditions = calls.flatten := by
      rw [List.flatMap_map]
      simp only [place.conditions_call]
      exact List.flatMap_id
    rw [place.build_put, place.besides_calls, split, conditionClause_build, List.flatMap_append,
      List.flatMap_append, given]

end KeywordPlace

def selectWhere : KeywordPlace .select where
  keyword := "where"
  clause := .filter
  call := .filter
  conditions := SelectCall.filters
  build := Select.build
  put := fun s c => { s with filter := c }
  opening := "select"
  terms := Select.terms
  opening_ne_empty := by decide
  keyword_ne_empty := by decide
  clause_call := fun _ => rfl
  conditions_call := fun _ => rfl
  conditions_other := by
    intro call other
    cases call with
    | filter condition => exact absurd rfl other
    | _ => rfl
  build_put := by
    intro calls
    rw [Select.build_besides, ← Select.filter_build]
    rfl
  terms_put := by
    intro s
    refine ⟨s.distinctTerms ++ (if s.columns.isEmpty then [] else [Term.commaList s.columns])
        ++ s.sourceTerms,
      parenClause "group by" s.groupBy ++ conditionClause "having" s.having ++ s.paging.terms, ?_⟩
    intro c
    simp [Select.terms, Select.sourceTerms, Select.distinctTerms]

def selectHaving : KeywordPlace .select where
  keyword := "having"
  clause := .having
  call := .having
  conditions := SelectCall.havings
  build := Select.build
  put := fun s c => { s with having := c }
  opening := "select"
  terms := Select.terms
  opening_ne_empty := by decide
  keyword_ne_empty := by decide
  clause_call := fun _ => rfl
  conditions_call := fun _ => rfl
  conditions_other := by
    intro call other
    cases call with
    | having condition => exact absurd rfl other
    | _ => rfl
  build_put := by
    intro calls
    rw [Select.build_besides, ← Select.having_build]
    rfl
  terms_put := by
    intro s
    refine ⟨s.distinctTerms ++ (if s.columns.isEmpty then [] else [Term.commaList s.columns])
        ++ s.sourceTerms ++ conditionClause "where" s.filter ++ parenClause "group by" s.groupBy,
      s.paging.terms, ?_⟩
    intro c
    simp [Select.terms, Select.sourceTerms, Select.distinctTerms]

def updateWhere : KeywordPlace .update where
  keyword := "where"
  clause := .filter
  call := .filter
  conditions := UpdateCall.filters
  build := Update.build
  put := fun u c => { u with filter := c }
  opening := "update"
  terms := Update.terms
  opening_ne_empty := by decide
  keyword_ne_empty := by decide
  clause_call := fun _ => rfl
  conditions_call := fun _ => rfl
  conditions_other := by
    intro call other
    cases call with
    | filter condition => exact absurd rfl other
    | _ => rfl
  build_put := by
    intro calls
    rw [Update.build_besides, ← Update.filter_build]
    rfl
  terms_put := by
    intro u
    refine ⟨u.table.toList ++ listClause "set" (u.assignments.map Assignment.toTerm)
        ++ listClause "from" u.sources ++ u.joins.map Join.toTerm,
      termClause "where current of" u.cursor ++ listClause "returning" u.returning, ?_⟩
    intro c
    simp [Update.terms]

def deleteWhere : KeywordPlace .delete where
  keyword := "where"
  clause := .filter
  call := .filter
  conditions := DeleteCall.filters
  build := Delete.build
  put := fun d c => { d with filter := c }
  opening := "delete from"
  terms := Delete.terms
  opening_ne_empty := by decide
  keyword_ne_empty := by decide
  clause_call := fun _ => rfl
  conditions_call := fun _ => rfl
  conditions_other := by
    intro call other
    cases call with
    | filter condition => exact absurd rfl other
    | _ => rfl
  build_put := by
    intro calls
    rw [Delete.build_besides, ← Delete.filter_build]
    rfl
  terms_put := by
    intro d
    refine ⟨d.table.toList, listClause "returning" d.returning, ?_⟩
    intro c
    simp [Delete.terms]

end BoundSql
