import BoundSql.Proofs.RenderedClauses
import BoundSql.Proofs.Substatements

/-! # Columns and their values

What an update sets is a list of entries behind its keyword.  The parentheses on the
left of an entry depend on the number of its columns, and the row on the right on the
number of its values; the two are given by different calls.  Where there is one value
for each column, or one sub-select for all columns, the two sides agree. -/
set_option autoImplicit false
namespace BoundSql

open List (Forall₂)

def AssignmentCall.entries : AssignmentCall → List (List Piece)
  | .to values => values.map fun t => t.arg.pieces
  | .toRaw values => values.map fun t => t.raw.pieces
  | .select calls => [bracketed [layOut (Select.build calls).terms]]

def AssignmentCall.isSelect : AssignmentCall → Bool
  | .select _ => true
  | _ => false

def rowOf (values : List (List Piece)) : List Piece :=
  .text "row(" :: listed values ++ [.text ")"]

/-- One column takes one value.  Several columns take their values from one sub-select,
or each of them takes the value at its place in a row. -/
def assignmentEntry (columns values : List (List Piece)) : List Piece :=
  match columns, values with
  | [column], [value] => spaced [column, [.text "="], value]
  | columns, [value] => spaced [bracketed columns, [.text "="], value]
  | columns, values =>
    let pairs := columns.zip values
    spaced [bracketed (pairs.map Prod.fst), [.text "="], rowOf (pairs.map Prod.snd)]

def UpdateCall.setEntries : UpdateCall → List (List Piece)
  | .set columns values =>
    [assignmentEntry (columns.map Term.pieces) (values.flatMap AssignmentCall.entries)]
  | _ => []

/-- There are columns and as many values, or one sub-select, and all of them render. -/
def UpdateCall.isPaired : UpdateCall → Bool
  | .set columns values =>
    let entries := values.flatMap AssignmentCall.entries
    !columns.isEmpty && columns.all Term.renders && entries.all shows &&
      (entries.length == columns.length ||
        (entries.length == 1 && values.any AssignmentCall.isSelect))
  | _ => true

def groupedPieces (lead : String) : List (List Piece) → List Piece
  | [entry] => entry
  | entries => .text (lead ++ "(") :: listed entries ++ [.text ")"]

theorem assignmentEntry_eq {columns values : List (List Piece)} (nonempty : columns ≠ [])
    (paired : values.length = columns.length ∨ values.length = 1) :
    assignmentEntry columns values =
      spaced [groupedPieces "" columns, [.text "="], groupedPieces "row" values] := by
  match columns, values with
  | [], _ => exact absurd rfl nonempty
  | [column], [value] => rfl
  | first :: second :: more, [value] => rfl
  | _ :: _, [] => simp at paired
  | [column], _ :: _ :: _ => simp at paired
  | first :: second :: more, value :: next :: others =>
    have lengths : (value :: next :: others).length = (first :: second :: more).length := by
      simpa using paired
    have left := List.map_fst_zip (Nat.le_of_eq lengths.symm)
    have right := List.map_snd_zip (Nat.le_of_eq lengths)
    simp only [assignmentEntry, left, right]
    rfl

section Entry
variable {ts : List Term} {entries : List (List Piece)}

theorem Entries.shown_grouped (h : Entries ts entries) (nonempty : entries ≠ []) (lead : String) :
    Shown (if 1 < ts.length then .paren lead comma ts else .commaList ts)
      (.entry (groupedPieces lead entries)) := by
  have count : ts.length = entries.length := by rw [← h.pieces, List.length_map]
  have joined : joinPieces comma (Term.piecesEach ts) = BoundSql.listed entries := by
    rw [Term.piecesEach_eq, h.pieces, joinPieces_full comma h.all]
    rfl
  match entries with
  | [] => exact absurd rfl nonempty
  | [entry] =>
    rw [count]
    exact .entry (joined.trans List.intercalate_singleton) (h.all entry List.mem_cons_self)
  | first :: second :: more =>
    have several : groupedPieces lead (first :: second :: more) =
        .text (lead ++ "(") :: BoundSql.listed (first :: second :: more) ++ [.text ")"] := rfl
    have seen := shows_listed nonempty h.all
    rw [count, several, ← joined]
    rw [← joined] at seen
    refine .entry (if_pos seen) ?_
    simp [shows, Piece.shows]

theorem Assignment.shown {a : Assignment} {columns values : List (List Piece)}
    (target : Entries a.columns columns) (source : Entries a.values values)
    (nonempty : columns ≠ [])
    (paired : values.length = columns.length ∨ values.length = 1) :
    Shown a.toTerm (.entry (assignmentEntry columns values)) := by
  have given : values ≠ [] := by
    rintro rfl
    have columnsSome := List.length_pos_iff.mpr nonempty
    simp only [List.length_nil] at paired
    omega
  have row : Forall₂ Shown [a.target, .word "=", a.source]
      [.entry (groupedPieces "" columns), .word "=", .entry (groupedPieces "row" values)] :=
    .cons (target.shown_grouped nonempty "")
      (.cons (.word (by decide)) (.cons (source.shown_grouped given "row") .nil))
  have pieces : a.toTerm.pieces = assignmentEntry columns values := by
    rw [assignmentEntry_eq nonempty paired]
    exact layOut_shown row
  refine .entry pieces ?_
  rw [← pieces]
  exact shows_joinPieces " " [a.target.pieces] [a.source.pieces] rfl

end Entry

theorem AssignmentCall.value_entries {call : AssignmentCall} (h : call.entries.all shows = true) :
    Entries call.terms call.entries := by
  refine ⟨?_, List.all_eq_true.mp h⟩
  match call with
  | .to values | .toRaw values => exact List.map_map
  | .select calls =>
    have seen : (Select.build calls).toTerm.renders = true := (Select.build calls).shows_layOut
    exact congrArg (fun pieces => [pieces]) (Shown.parenthesized seen).pieces

/-- The entries of a call of an update are those of the program. -/
theorem UpdateCall.set_entries {call : UpdateCall} (h : call.isPaired = true) :
    Entries (call.assigned.map Assignment.toTerm) call.setEntries := by
  cases call with
  | set columns values =>
    simp only [isPaired, Bool.and_eq_true, Bool.or_eq_true, Bool.not_eq_true', beq_iff_eq,
      List.isEmpty_eq_false_iff] at h
    obtain ⟨⟨⟨nonempty, columnsRender⟩, valuesRender⟩, counts⟩ := h
    have target : Entries columns (columns.map Term.pieces) := .ofAll columnsRender
    have source : Entries (values.flatMap AssignmentCall.terms)
        (values.flatMap AssignmentCall.entries) := by
      refine .flatMap fun call member => call.value_entries ?_
      rw [List.all_flatMap, List.all_eq_true] at valuesRender
      exact valuesRender call member
    have paired : (values.flatMap AssignmentCall.entries).length =
        (columns.map Term.pieces).length ∨ (values.flatMap AssignmentCall.entries).length = 1 := by
      rw [List.length_map]
      exact counts.imp_right And.left
    rw [assigned, Assignment.build_eq]
    exact .single (Assignment.shown target source (by simpa using nonempty) paired)
  | _ => exact .nil

def updateFront (calls : List UpdateCall) : List Term :=
  .word "update" :: (calls.flatMap UpdateCall.tables).getLast?.toList

section Sets
variable (calls : List UpdateCall)

theorem assigned_besides_set :
    (Builder.update.besides .set calls).flatMap UpdateCall.assigned = [] := by
  rw [← Update.assignments_build, Update.build_besides]
  rfl

/-- Updates that differ in nothing but what they set differ in one list behind the table. -/
theorem Update.exists_setPlace : ∃ back : List Term, ∀ others : List UpdateCall,
    Builder.update.besides .set others = Builder.update.besides .set calls →
      (Update.build others).terms = updateFront calls
        ++ listClause "set" ((others.flatMap UpdateCall.assigned).map Assignment.toTerm)
        ++ back := by
  let u := Update.build calls
  refine ⟨listClause "from" u.sources ++ u.joins.map Join.toTerm ++ conditionClause "where" u.filter
    ++ termClause "where current of" u.cursor ++ listClause "returning" u.returning, ?_⟩
  intro others agree
  have rest : (Update.build others).without .set = u.without .set := by
    rw [← Update.build_besides, ← Update.build_besides, agree]
  simp only [Update.without, Update.mk.injEq] at rest
  obtain ⟨table, -, sources, joins, filter, cursor, returning⟩ := rest
  rw [Update.terms, table, sources, joins, filter, cursor, returning, Update.table_build,
    Update.assignments_build]
  simp only [updateFront, List.append_assoc, List.cons_append, List.nil_append]

end Sets

theorem Update.layOut_entries {calls : List UpdateCall} {entries : UpdateCall → List (List Piece)}
    (each : ∀ call ∈ calls, Entries (call.assigned.map Assignment.toTerm) (entries call)) :
    ∃ back : List (List Piece),
      layOut (Update.build (Builder.update.besides .set calls)).terms =
        spaced (visible (updateFront calls) ++ back) ∧
      layOut (Update.build calls).terms =
        spaced (visible (updateFront calls)
          ++ (listPart "set" (calls.flatMap entries)).map Part.pieces ++ back) := by
  have all : Entries ((calls.flatMap UpdateCall.assigned).map Assignment.toTerm)
      (calls.flatMap entries) := by
    rw [List.map_flatMap]
    exact .flatMap each
  have clause : visible
      (listClause "set" ((calls.flatMap UpdateCall.assigned).map Assignment.toTerm)) =
        (listPart "set" (calls.flatMap entries)).map Part.pieces :=
    visible_shown (all.listPart (by decide))
  obtain ⟨back, written⟩ := Update.exists_setPlace calls
  have unset : (Update.build (Builder.update.besides .set calls)).terms =
      updateFront calls ++ back := by
    have nothing : listClause "set" [] = [] := rfl
    have bare := written _ (Builder.update.besides_idempotent .set calls)
    rwa [assigned_besides_set, List.map_nil, nothing, List.append_nil] at bare
  refine ⟨visible back, ?_, ?_⟩
  · rw [unset, layOut_eq_spaced, visible_append]
  · rw [written calls rfl, layOut_eq_spaced, visible_append, visible_append, clause]

theorem Update.layOut_sets {calls : List UpdateCall} (h : calls.all UpdateCall.isPaired = true) :
    ∃ back : List (List Piece),
      layOut (Update.build (Builder.update.besides .set calls)).terms =
        spaced (visible (updateFront calls) ++ back) ∧
      layOut (Update.build calls).terms =
        spaced (visible (updateFront calls)
          ++ (listPart "set" (calls.flatMap UpdateCall.setEntries)).map Part.pieces ++ back) :=
  Update.layOut_entries fun call member => call.set_entries (List.all_eq_true.mp h call member)

/-- An update is the whole program, or stands in an insert without parentheses. -/
def Host.HoldsUpdate (s : Setting) (host : Host (List UpdateCall)) : Prop :=
  (s = .whole ∧ host = .program Program.update) ∨
    (s = .bare ∧ ((∃ target calls, host = .conflict target calls) ∨
      ∃ calls : List UpdateCall → List InsertCall, host = .program fun x => .insert (calls x)))

theorem Embeds.holdsUpdate {s : Setting} {host : Host (List UpdateCall)}
    (place : Embeds Program.update s host) : host.HoldsUpdate s := by
  induction place with
  | itself => exact .inl ⟨rfl, rfl⟩
  | doUpdate target before after last _ ih =>
    refine .inr ⟨?_, .inl ⟨target, _, rfl⟩⟩
    rcases ih with ⟨rfl, -⟩ | ⟨rfl, -⟩ <;> rfl
  | onConflict before after columns last _ ih =>
    rcases ih with ⟨-, h⟩ | ⟨h, -⟩
    · simp at h
    · exact .inr ⟨h, .inr ⟨_, rfl⟩⟩
  | onConstraint before after name last _ ih =>
    rcases ih with ⟨-, h⟩ | ⟨h, -⟩
    · simp at h
    · exact .inr ⟨h, .inr ⟨_, rfl⟩⟩
  | _ =>
    rename_i ih
    simp [Host.HoldsUpdate, funext_iff] at ih

theorem Update.shows_layOut (u : Update) : shows (layOut u.terms) = true := by
  rw [Update.terms]
  simp only [List.append_assoc]
  exact shows_joinPieces " " [] _ rfl

/-- Where an update stands, it is written as it is alone. -/
theorem Embeds.exists_around {s : Setting} {host : List UpdateCall → Program}
    (place : Embeds Program.update s (.program host)) :
    ∃ before after : List Piece, ∀ calls,
      (host calls).query = assemble (before ++ layOut (Update.build calls).terms ++ after) := by
  obtain ⟨before, after, around⟩ := place.holds.relocates
  have bare (pieces : List Piece) : s.surround pieces = pieces := by
    rcases place.holdsUpdate with ⟨rfl, -⟩ | ⟨rfl, -⟩ <;> rfl
  refine ⟨before, after, fun calls => ?_⟩
  simp only [bare] at around
  rw [Program.query_eq]
  exact congrArg assemble (around calls (Update.build calls).shows_layOut)

/-- Wherever an update stands, what it sets is written behind its table: the entries in
the order of their calls, each with its columns and its values in pairs, or with its
columns and their sub-select.  The rest of the text is that without these calls. -/
theorem set_pairs_columns {s : Setting} {host : List UpdateCall → Program}
    (place : Embeds Program.update s (.program host)) :
    ∃ before after : List Piece, ∀ calls : List UpdateCall,
      calls.all UpdateCall.isPaired = true → ∃ back : List (List Piece),
        (host (Builder.update.besides .set calls)).query =
          assemble (before ++ spaced (visible (updateFront calls) ++ back) ++ after) ∧
        (host calls).query =
          assemble (before ++ spaced (visible (updateFront calls)
            ++ (listPart "set" (calls.flatMap UpdateCall.setEntries)).map Part.pieces
            ++ back) ++ after) := by
  obtain ⟨before, after, around⟩ := place.exists_around
  refine ⟨before, after, fun calls h => ?_⟩
  obtain ⟨back, unset, whole⟩ := Update.layOut_sets h
  refine ⟨back, ?_, ?_⟩
  · rw [around, unset]
  · rw [around, whole]

def visitCounts (update : List UpdateCall) : Program :=
  .insert [.into (.word "visits"), .value [.word "x"],
    .onConflict [.word "name"] [.doUpdate update]]

def countAgain : List UpdateCall :=
  [.set [.word "n"] [.toRaw [.word "n + 1"]],
    .set [.word "a", .word "b", .word "c"]
      [.to [.literal (.int4 7)], .to [], .toRaw [.word "now()"], .select [.columns [.word "m"]]],
    .set [.word "d", .word "e"] [.select [.columns [.word "f", .word "g"]]],
    .filter [.isNull (.word "b")]]

theorem set_pairs_columns_countAgain :
    countAgain.all UpdateCall.isPaired = true ∧
      (visitCounts countAgain).query.sql =
        "insert into visits values ($1) on conflict (name) do update set n = n + 1, "
          ++ "(a, b, c) = row($2, now(), (select m)), (d, e) = (select f, g) where (b is null)" ∧
      ∃ before after : List Piece, ∃ back : List (List Piece),
        (visitCounts countAgain).query =
          assemble (before ++ spaced (visible (updateFront countAgain)
            ++ (listPart "set" (countAgain.flatMap UpdateCall.setEntries)).map Part.pieces
            ++ back) ++ after) := by
  have place : Embeds Program.update .bare (.program visitCounts) :=
    (Embeds.itself.doUpdate (.columns [.word "name"]) [] [] rfl).onConflict
      [.into (.word "visits"), .value [.word "x"]] [] [.word "name"] rfl
  have paired : countAgain.all UpdateCall.isPaired = true := by decide +kernel
  obtain ⟨before, after, written⟩ := set_pairs_columns place
  obtain ⟨back, -, whole⟩ := written countAgain paired
  exact ⟨paired, by decide +kernel, before, after, back, whole⟩

end BoundSql
