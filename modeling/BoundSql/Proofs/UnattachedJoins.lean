import BoundSql.Proofs.AssignedPairs
import BoundSql.Proofs.DroppedClauses
import BoundSql.Proofs.ShorterTexts

/-! # Joins without a source

A join has its place behind the sources.  A select without a source leaves its joins
out, with their conditions and arguments; an update writes them all the same, behind
what it sets. -/
set_option autoImplicit false
namespace BoundSql

theorem Join.shows_toTerm (j : Join) : shows j.toTerm.pieces = true := by
  have kind : shows (Term.word j.kind.text).pieces = true := by
    cases j.kind <;> decide
  rw [toTerm]
  simp only [List.append_assoc]
  exact shows_joinPieces " " [] _ kind

theorem joins_hidden_iff (joins : List Join) :
    (∀ t ∈ joins.map Join.toTerm, shows t.pieces = false) ↔ joins = [] := by
  simp [Join.shows_toTerm, List.eq_nil_iff_forall_not_mem]

/-- The joins of a select follow its sources, where it has one. -/
theorem Select.exists_joinsPlace (calls : List SelectCall) :
    ∃ front back : List Term,
      (Select.build (Builder.select.besides .joins calls)).terms =
        .word "select" :: (front ++ back) ∧
      (Select.build calls).terms = .word "select" ::
        (front ++ (if (calls.flatMap SelectCall.sourceItems).isEmpty then []
          else (calls.flatMap SelectCall.joined).map Join.toTerm) ++ back) := by
  let s := Select.build calls
  refine ⟨s.distinctTerms ++ (if s.columns.isEmpty then [] else [.commaList s.columns])
      ++ (if s.sources.isEmpty then [] else [.word "from", .commaList s.sources]),
    conditionClause "where" s.filter ++ parenClause "group by" s.groupBy
      ++ conditionClause "having" s.having ++ s.paging.terms, ?_, ?_⟩
  · rw [Select.build_besides]
    simp [terms, without, sourceTerms, distinctTerms, s]
  · rw [← Select.sources_build, ← Select.joins_build]
    cases sourceless : (Select.build calls).sources.isEmpty <;>
      simp [terms, sourceTerms, sourceless, s]

/-- The joins of an update follow its sources, or their place. -/
theorem Update.exists_joinsPlace (calls : List UpdateCall) :
    ∃ front back : List Term,
      (Update.build (Builder.update.besides .joins calls)).terms = .word "update" ::
        (front ++ listClause "from" (calls.flatMap UpdateCall.sourceItems) ++ back) ∧
      (Update.build calls).terms = .word "update" ::
        (front ++ listClause "from" (calls.flatMap UpdateCall.sourceItems)
          ++ (calls.flatMap UpdateCall.joined).map Join.toTerm ++ back) := by
  let u := Update.build calls
  refine ⟨u.table.toList ++ listClause "set" (u.assignments.map Assignment.toTerm),
    conditionClause "where" u.filter ++ termClause "where current of" u.cursor
      ++ listClause "returning" u.returning, ?_, ?_⟩
  · rw [Update.build_besides]
    simp [terms, without, ← Update.sources_build, u]
  · simp [terms, ← Update.sources_build, ← Update.joins_build, u]

theorem Embeds.select_unjoined_iff {s : Setting} {host : List SelectCall → Program}
    (place : Embeds Program.select s (.program host)) (calls : List SelectCall) :
    (host calls).query = (host (Builder.select.besides .joins calls)).query ↔
      calls.flatMap SelectCall.sourceItems = [] ∨ calls.flatMap SelectCall.joined = [] := by
  obtain ⟨front, back, unjoined, joined⟩ := Select.exists_joinsPlace calls
  rw [place.same_query_iff (fun calls => (Select.build calls).shows_layOut) (by decide) joined
    unjoined]
  cases sourceless : (calls.flatMap SelectCall.sourceItems).isEmpty with
  | true => simpa using Or.inl (List.isEmpty_iff.mp sourceless)
  | false =>
    have sourced := List.isEmpty_eq_false_iff.mp sourceless
    rw [if_neg (by simp), joins_hidden_iff, or_iff_right sourced]

theorem Embeds.update_unjoined_iff {s : Setting} {host : List UpdateCall → Program}
    (place : Embeds Program.update s (.program host)) (calls : List UpdateCall) :
    (host calls).query = (host (Builder.update.besides .joins calls)).query ↔
      calls.flatMap UpdateCall.joined = [] := by
  obtain ⟨front, back, unjoined, joined⟩ := Update.exists_joinsPlace calls
  rw [place.same_query_iff (fun calls => (Update.build calls).shows_layOut) (by decide) joined
    unjoined, joins_hidden_iff]

/-- A select without a source is written as it is without its joins, wherever it stands.
An update has the place of its joins behind its sources whether it has any or none, and
all joins are written there: it is written as it is without them only if there are none. -/
theorem joins_without_source {s t : Setting} {reading : List SelectCall → Program}
    {writing : List UpdateCall → Program} (select : Embeds Program.select s (.program reading))
    (update : Embeds Program.update t (.program writing)) :
    (∀ calls : List SelectCall,
      (reading calls).query = (reading (Builder.select.besides .joins calls)).query ↔
        calls.flatMap SelectCall.sourceItems = [] ∨ calls.flatMap SelectCall.joined = []) ∧
    (∃ before after : List Piece, ∀ calls : List UpdateCall, ∃ front back : List Term,
      (writing (Builder.update.besides .joins calls)).query =
        assemble (before ++ layOut (.word "update" ::
          (front ++ listClause "from" (calls.flatMap UpdateCall.sourceItems) ++ back)) ++ after) ∧
      (writing calls).query =
        assemble (before ++ layOut (.word "update" ::
          (front ++ listClause "from" (calls.flatMap UpdateCall.sourceItems)
            ++ (calls.flatMap UpdateCall.joined).map Join.toTerm ++ back)) ++ after)) ∧
    ∀ calls : List UpdateCall,
      (writing calls).query = (writing (Builder.update.besides .joins calls)).query ↔
        calls.flatMap UpdateCall.joined = [] := by
  refine ⟨select.select_unjoined_iff, ?_, update.update_unjoined_iff⟩
  obtain ⟨before, after, around⟩ := update.exists_around
  refine ⟨before, after, fun calls => ?_⟩
  obtain ⟨front, back, unjoined, joined⟩ := Update.exists_joinsPlace calls
  refine ⟨front, back, ?_, ?_⟩
  · rw [around, unjoined]
  · rw [around, joined]

def loneRoles : List SelectCall :=
  [.join .left (.word "roles") [.on [.compare (.word "roles.id") .eq (.literal (.int4 7))]],
    .columns [.literal (.int4 1)]]

theorem joins_without_source_loneRoles :
    (deleteExcept loneRoles).query =
        (deleteExcept (Builder.select.besides .joins loneRoles)).query ∧
      (Program.update [.table (.word "t"), .join .inner (.word "u") []]).query ≠
        (Program.update [.table (.word "t")]).query := by
  have alone : Embeds Program.select .whole (.program Program.select) := .itself
  have condition := Embeds.not [.compare (.word "age") .ge (.literal (.int8 30))]
    [.rawText "locked"] (alone.inSelect [] [] (.word "user_id"))
  have place : Embeds Program.select .enclosed (.program deleteExcept) :=
    condition.deleteFilter [.table (.word "sessions")] []
  have whole : Embeds Program.update .whole (.program Program.update) := .itself
  obtain ⟨read, -, written⟩ := joins_without_source place whole
  refine ⟨(read loneRoles).mpr (.inl rfl), fun unchanged => ?_⟩
  have unjoined := (written [.table (.word "t"), .join .inner (.word "u") []]).mp unchanged
  exact absurd unjoined (List.cons_ne_nil _ _)

/-- Without a source an update has nothing that a join could follow, and has it. -/
theorem update_join_without_source :
    (Program.update [.table (.word "t"), .set [.word "a"] [.to [.literal (.int4 1)]],
        .join .join (.word "u") [.usingColumns [.word "id"]]]).query.sql =
        "update t set a = $1 join u using (id)" ∧
      (Program.update [.table (.word "t"), .set [.word "a"] [.to [.literal (.int4 1)]]]).query.sql =
        "update t set a = $1" := by
  decide +kernel

end BoundSql
