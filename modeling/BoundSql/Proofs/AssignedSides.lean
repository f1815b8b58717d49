import Mathlib.Data.List.Flatten
import BoundSql.Proofs.AssignedPairs
import BoundSql.Proofs.DroppedClauses
import BoundSql.Proofs.ShorterTexts

/-! # Assignments without a side

The columns of an assignment are written where there are any, and so are its values, but
the sign between them is always written.  Nothing looks at both sides: an assignment
without one of them, or without both, is an entry like the others, and an update in which
there is no other entry has its `set` all the same. -/
set_option autoImplicit false
namespace BoundSql

def sidePieces (lead : String) (entries : List (List Piece)) : List (List Piece) :=
  if entries.isEmpty then [] else [groupedPieces lead entries]

/-- The sign, between the sides that there are. -/
def writtenAssignment (columns values : List (List Piece)) : List Piece :=
  spaced (sidePieces "" columns ++ [.text "="] :: sidePieces "row" values)

def UpdateCall.writtenEntries : UpdateCall → List (List Piece)
  | .set columns values =>
    [writtenAssignment (columns.map Term.pieces) (values.flatMap AssignmentCall.entries)]
  | _ => []

def UpdateCall.setRenders : UpdateCall → Bool
  | .set columns values =>
    columns.all Term.renders && (values.flatMap AssignmentCall.entries).all shows
  | _ => true

/-- There are columns and values. -/
def UpdateCall.isWhole : UpdateCall → Bool
  | .set columns values =>
    !columns.isEmpty && !(values.flatMap AssignmentCall.terms).isEmpty
  | _ => true

theorem Entries.visible_side {ts : List Term} {entries : List (List Piece)}
    (h : Entries ts entries) (lead : String) :
    visible [if 1 < ts.length then .paren lead comma ts else .commaList ts] =
      sidePieces lead entries := by
  by_cases noEntries : entries = []
  · have noTerms : ts = [] := List.map_eq_nil_iff.mp (h.pieces.trans noEntries)
    rw [noEntries, noTerms]
    rfl
  · have one := visible_shown (.cons (h.shown_grouped noEntries lead) .nil)
    rw [one, sidePieces, if_neg (mt List.isEmpty_iff.mp noEntries)]
    rfl

theorem Assignment.shows_toTerm (a : Assignment) : shows a.toTerm.pieces = true :=
  shows_joinPieces " " [a.target.pieces] [a.source.pieces] rfl

theorem Assignment.shown_written {a : Assignment} {columns values : List (List Piece)}
    (target : Entries a.columns columns) (source : Entries a.values values) :
    Shown a.toTerm (.entry (writtenAssignment columns values)) := by
  have sides : visible [a.target, .word "=", a.source] =
      sidePieces "" columns ++ [.text "="] :: sidePieces "row" values := by
    have left : visible [a.target] = sidePieces "" columns := target.visible_side ""
    have right : visible [a.source] = sidePieces "row" values := source.visible_side "row"
    rw [← left, ← right]
    exact (visible_append [a.target] [.word "=", a.source]).trans
      (congrArg (visible [a.target] ++ ·) (visible_append [.word "="] [a.source]))
  have pieces : a.toTerm.pieces = writtenAssignment columns values := by
    rw [writtenAssignment, ← sides]
    rfl
  exact .entry pieces (pieces ▸ a.shows_toTerm)

theorem UpdateCall.written_entries {call : UpdateCall} (h : call.setRenders = true) :
    Entries (call.assigned.map Assignment.toTerm) call.writtenEntries := by
  cases call with
  | set columns values =>
    rw [setRenders, Bool.and_eq_true, List.all_flatMap] at h
    obtain ⟨columnsRender, valuesRender⟩ := h
    have target : Entries columns (columns.map Term.pieces) := .ofAll columnsRender
    have source : Entries (values.flatMap AssignmentCall.terms)
        (values.flatMap AssignmentCall.entries) :=
      .flatMap fun call member => call.value_entries (List.all_eq_true.mp valuesRender call member)
    rw [assigned, Assignment.build_eq]
    exact .single (Assignment.shown_written target source)
  | _ => exact .nil

theorem besides_set_filter_isWhole (calls : List UpdateCall) :
    Builder.update.besides .set (calls.filter UpdateCall.isWhole) =
      Builder.update.besides .set calls := by
  rw [Builder.besides, Builder.besides, List.filter_filter]
  refine List.filter_congr fun call _ => ?_
  cases call <;> rfl

/-- Each call of `set` has its entry, whole or not. -/
theorem assigned_filter_isWhole_iff (calls : List UpdateCall) :
    (calls.filter UpdateCall.isWhole).flatMap UpdateCall.assigned =
        calls.flatMap UpdateCall.assigned ↔
      ∀ call ∈ calls, call.isWhole = true := by
  refine ⟨fun unchanged => ?_, fun whole => by rw [List.filter_eq_self.mpr whole]⟩
  induction calls with
  | nil => exact List.forall_mem_nil _
  | cons call rest ih =>
    cases whole : call.isWhole with
    | true =>
      rw [List.filter_cons_of_pos whole, List.flatMap_cons, List.flatMap_cons] at unchanged
      exact List.forall_mem_cons.mpr ⟨whole, ih (List.append_cancel_left unchanged)⟩
    | false =>
      have one : call.assigned.length = 1 := by
        cases call <;> first | rfl | exact absurd whole (by simp [UpdateCall.isWhole])
      have kept : (rest.filter UpdateCall.isWhole).Sublist rest := List.filter_sublist
      have fewer := (kept.flatMap UpdateCall.assigned).length_le
      rw [List.filter_cons_of_neg (by simp [whole])] at unchanged
      have lengths := congrArg List.length unchanged
      rw [List.flatMap_cons, List.length_append, one] at lengths
      omega

section Placed
variable {s : Setting} {host : List UpdateCall → Program}
  (place : Embeds Program.update s (.program host))
include place

/-- With fewer assignments an update is another one. -/
theorem Embeds.fewer_assignments_iff {fewer calls : List UpdateCall}
    (others : Builder.update.besides .set fewer = Builder.update.besides .set calls)
    (h : (fewer.flatMap UpdateCall.assigned).Sublist (calls.flatMap UpdateCall.assigned)) :
    (host calls).query = (host fewer).query ↔
      fewer.flatMap UpdateCall.assigned = calls.flatMap UpdateCall.assigned := by
  obtain ⟨before, after, around⟩ := place.exists_around
  obtain ⟨back, written⟩ := Update.exists_setPlace calls
  have all : ∀ t ∈ (calls.flatMap UpdateCall.assigned).map Assignment.toTerm,
      shows t.pieces = true :=
    List.forall_mem_map.mpr fun a _ => a.shows_toTerm
  rw [around, around, written calls rfl, written fewer others]
  simp only [updateFront, List.cons_append]
  rw [assemble_listClause_iff before after (by decide) _ _ (h.map _) all]
  refine ⟨fun unchanged => h.eq_of_length ?_, congrArg _⟩
  simpa using congrArg List.length unchanged

theorem Embeds.unassigned_iff (calls : List UpdateCall) :
    (host calls).query = (host (Builder.update.besides .set calls)).query ↔
      ∀ call ∈ calls, call.clause ≠ .set := by
  have unset := assigned_besides_set calls
  rw [place.fewer_assignments_iff (Builder.update.besides_idempotent .set calls)
    (unset ▸ List.nil_sublist _), unset, eq_comm, List.flatMap_eq_nil_iff]
  refine forall₂_congr fun call _ => ?_
  cases call <;> simp [UpdateCall.assigned, UpdateCall.clause]

theorem Embeds.all_whole_iff (calls : List UpdateCall) :
    (host calls).query = (host (calls.filter UpdateCall.isWhole)).query ↔
      ∀ call ∈ calls, call.isWhole = true := by
  rw [place.fewer_assignments_iff (besides_set_filter_isWhole calls)
    (List.filter_sublist.flatMap _), assigned_filter_isWhole_iff]

/-- Wherever an update stands, it has one entry for each call of `set`, with the sides
that there are and the sign, and it has the keyword as soon as `set` was called.  So it is
the update of its whole assignments only if it has no others. -/
theorem set_entries_written :
    (∃ before after : List Piece, ∀ calls : List UpdateCall,
      calls.all UpdateCall.setRenders = true → ∃ back : List (List Piece),
        (host (Builder.update.besides .set calls)).query =
          assemble (before ++ spaced (visible (updateFront calls) ++ back) ++ after) ∧
        (host calls).query =
          assemble (before ++ spaced (visible (updateFront calls)
            ++ (listPart "set" (calls.flatMap UpdateCall.writtenEntries)).map Part.pieces
            ++ back) ++ after)) ∧
    ∀ calls : List UpdateCall,
      ((host calls).query = (host (Builder.update.besides .set calls)).query ↔
        ∀ call ∈ calls, call.clause ≠ .set) ∧
      ((host calls).query = (host (calls.filter UpdateCall.isWhole)).query ↔
        ∀ call ∈ calls, call.isWhole = true) := by
  refine ⟨?_, fun calls => ⟨place.unassigned_iff calls, place.all_whole_iff calls⟩⟩
  obtain ⟨before, after, around⟩ := place.exists_around
  refine ⟨before, after, fun calls h => ?_⟩
  obtain ⟨back, unset, whole⟩ := Update.layOut_entries fun call member =>
    call.written_entries (List.all_eq_true.mp h call member)
  refine ⟨back, ?_, ?_⟩
  · rw [around, unset]
  · rw [around, whole]

end Placed

def countSome : List UpdateCall :=
  [.set [.word "n"] [.toRaw [.word "n + 1"]], .set [.word "a", .word "b"] [.to []],
    .set [] [.to [.literal (.int4 7), .literal (.int4 8)]], .set [] []]

theorem set_entries_written_countSome :
    countSome.all UpdateCall.setRenders = true ∧
      (visitCounts countSome).query.sql =
        "insert into visits values ($1) on conflict (name) do update set n = n + 1, "
          ++ "(a, b) =, = row($2, $3), =" ∧
      (∃ before after : List Piece, ∃ back : List (List Piece),
        (visitCounts countSome).query =
          assemble (before ++ spaced (visible (updateFront countSome)
            ++ (listPart "set" (countSome.flatMap UpdateCall.writtenEntries)).map Part.pieces
            ++ back) ++ after)) ∧
      (visitCounts countSome).query ≠
        (visitCounts (countSome.filter UpdateCall.isWhole)).query := by
  have place : Embeds Program.update .bare (.program visitCounts) :=
    (Embeds.itself.doUpdate (.columns [.word "name"]) [] [] rfl).onConflict
      [.into (.word "visits"), .value [.word "x"]] [] [.word "name"] rfl
  obtain ⟨⟨before, after, written⟩, wholeIff⟩ := set_entries_written place
  have renders : countSome.all UpdateCall.setRenders = true := by decide +kernel
  obtain ⟨back, -, whole⟩ := written countSome renders
  refine ⟨renders, by decide +kernel, ⟨before, after, back, whole⟩, fun dropped => ?_⟩
  have all := (wholeIff countSome).2.mp dropped
  exact absurd (all (.set [] []) (by simp [countSome])) (by decide)

/-- Without values an assignment keeps its column and the sign, and the update its
keyword; without the call neither is there. -/
theorem update_set_without_values :
    (Program.update [.table (.word "t"), .set [.word "a"] [.to []]]).query.sql =
        "update t set a =" ∧
      (Program.update [.table (.word "t")]).query.sql = "update t" := by
  decide +kernel

end BoundSql
