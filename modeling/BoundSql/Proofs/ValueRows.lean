import BoundSql.Proofs.RenderedConditions
import BoundSql.Proofs.Substatements
import BoundSql.Proofs.ThinnedRows

/-! # Rows of values

Rows of values stand behind their keyword, each in parentheses.  The keyword is written
where rows are given, but a row without values leaves the list only when it is laid out.
So all rows that have values are written, in the order in which they are given, and the
keyword has no row behind it exactly where none of the rows has a value. -/
set_option autoImplicit false
namespace BoundSql

def rowsRender (rows : List (List Term)) : Bool :=
  rows.all fun row => row.all fun t => t.arg.renders

/-- The rows that have values. -/
def rowEntries (rows : List (List Term)) : List (List Piece) :=
  (rows.filter fun row => !row.isEmpty).map fun row => bracketed (row.map fun t => t.arg.pieces)

/-- The keyword, and the rows that have values where there are any. -/
def writtenRows (rows : List (List Term)) : List Part :=
  .word "values" :: if (rowEntries rows).isEmpty then [] else [.listed (rowEntries rows)]

def InsertCall.givenRows : InsertCall → List (List Term)
  | .value row => [row]
  | .values rows => rows
  | _ => []

theorem rowEntries_isEmpty_iff (rows : List (List Term)) :
    (rowEntries rows).isEmpty = true ↔ ∀ row ∈ rows, row = [] := by
  simp [rowEntries, List.filter_eq_nil_iff]

theorem rowEntries_show (rows : List (List Term)) : ∀ e ∈ rowEntries rows, shows e = true :=
  List.forall_mem_map.mpr fun _ _ => shows_bracketed _

theorem row_pieces {row : List Term} (h : (row.all fun t => t.arg.renders) = true) :
    [(Term.parenList (row.map Term.arg)).pieces].filter shows = rowEntries [row] := by
  cases row with
  | nil => rfl
  | cons first rest =>
    have values : ((first :: rest).map Term.arg).map Term.pieces =
        (first :: rest).map fun t => t.arg.pieces := by simp
    have each : ∀ e ∈ (first :: rest).map fun t => t.arg.pieces, shows e = true :=
      List.forall_mem_map.mpr (List.all_eq_true.mp h)
    have shown := Shown.bracketed values (by simp) each
    rw [shown.pieces, List.filter_cons_of_pos shown.full.filled.shows]
    rfl

theorem rowEntries_cons (row : List Term) (rest : List (List Term)) :
    rowEntries (row :: rest) = rowEntries [row] ++ rowEntries rest := by
  rw [rowEntries, ← List.singleton_append, List.filter_append, List.map_append]
  rfl

theorem rowsTerm_pieces {rows : List (List Term)} (h : rowsRender rows = true) :
    (rowsTerm (rows.map fun row => row.map Term.arg)).pieces = listed (rowEntries rows) := by
  have children : (rowsTerm (rows.map fun row => row.map Term.arg)).pieces =
      joinPieces comma (rows.map fun row => (Term.parenList (row.map Term.arg)).pieces) := by
    rw [rowsTerm, Term.commaList, Term.pieces, Term.piecesEach_eq, List.map_map, List.map_map]
    rfl
  have written : (rows.map fun row => (Term.parenList (row.map Term.arg)).pieces).filter shows =
      rowEntries rows := by
    clear children
    induction rows with
    | nil => rfl
    | cons row rest ih =>
      rw [rowsRender, List.all_cons, Bool.and_eq_true] at h
      rw [List.map_cons, rowEntries_cons, ← row_pieces h.1, ← ih h.2, ← List.filter_append,
        List.singleton_append]
  rw [children, joinPieces, written, listed]

theorem visible_rows {rows : List (List Term)} (h : rowsRender rows = true) :
    visible [.word "values", rowsTerm (rows.map fun row => row.map Term.arg)] =
      (writtenRows rows).map Part.pieces := by
  have keyword : shows (Term.word "values").pieces = true := by decide
  rw [visible, Term.piecesEach, Term.piecesEach, Term.piecesEach, rowsTerm_pieces h,
    List.filter_cons_of_pos keyword, writtenRows, List.map_cons]
  cases allBare : (rowEntries rows).isEmpty with
  | true =>
    rw [List.isEmpty_iff.mp allBare]
    rfl
  | false =>
    have seen := shows_listed (List.isEmpty_eq_false_iff.mp allBare) (rowEntries_show rows)
    rw [List.filter_cons_of_pos seen]
    rfl

/-- The keyword alone makes a text longer than one without it. -/
theorem text_writtenRows_iff (n : Nat) (front back : List (List Piece)) (rows : List (List Term)) :
    textFrom n (spaced (front ++ (writtenRows rows).map Part.pieces ++ back)) =
        textFrom n (spaced
          (front ++ (listPart "values" (rowEntries rows)).map Part.pieces ++ back)) ↔
      ∃ row ∈ rows, row ≠ [] := by
  rw [writtenRows, listPart]
  cases allBare : (rowEntries rows).isEmpty with
  | true =>
    have keyword : Thinned [] [[Piece.text "values"]] := .drop (by decide) rfl .nil
    have thinned := ((Thinned.refl front).append keyword).append (Thinned.refl back)
    constructor
    · intro unchanged
      have words := thinned.length_eq unchanged
      simp at words
    · rintro ⟨row, member, valued⟩
      exact absurd ((rowEntries_isEmpty_iff rows).mp allBare row member) valued
  | false =>
    have valued : ¬ ∀ row ∈ rows, row = [] := by
      rw [← rowEntries_isEmpty_iff, allBare]
      decide
    simpa using valued

theorem InsertCall.rowItems_eq (calls : List InsertCall) :
    calls.flatMap InsertCall.rowItems =
      (calls.flatMap InsertCall.givenRows).map fun row => row.map Term.arg := by
  rw [List.map_flatMap]
  exact List.flatMap_congr fun call _ => by cases call <;> rfl

/-- The rows and their keyword have one place among the terms of an insert. -/
theorem Insert.exists_rowsPlace (calls : List InsertCall) :
    ∃ front back : List Term,
      (Insert.build (Builder.insert.besides .rows calls)).terms = front ++ back ∧
      (Insert.build calls).terms =
        front ++ (if (calls.flatMap InsertCall.givenRows).isEmpty then []
          else [.word "values",
            rowsTerm ((calls.flatMap InsertCall.givenRows).map fun row => row.map Term.arg)])
          ++ back := by
  have rows : (Insert.build calls).rows =
      (calls.flatMap InsertCall.givenRows).map fun row => row.map Term.arg := by
    rw [Insert.rows_build, InsertCall.rowItems_eq]
  let i := Insert.build calls
  refine ⟨[Term.word "insert"] ++ termClause "into" i.table
    ++ (if i.columns.isEmpty then [] else [Term.parenList i.columns]) ++ i.overridingTerms
    ++ (if i.defaultValues then [Term.word "default values"] else []),
    i.select.toList ++ (i.conflict.map Conflict.toTerm).toList
      ++ listClause "returning" i.returning, ?_, ?_⟩
  · simp [Insert.build_besides, Insert.without, Insert.terms, Insert.overridingTerms, i]
  · simp [Insert.terms, rows, i]

/-- The text of an insert is that without its rows, and the rows behind their keyword. -/
theorem Insert.layOut_rows {calls : List InsertCall}
    (h : rowsRender (calls.flatMap InsertCall.givenRows) = true) :
    ∃ front back : List (List Piece),
      layOut (Insert.build (Builder.insert.besides .rows calls)).terms =
        spaced (front ++ back) ∧
      layOut (Insert.build calls).terms =
        spaced (front
          ++ (if (calls.flatMap InsertCall.givenRows).isEmpty then []
            else writtenRows (calls.flatMap InsertCall.givenRows)).map Part.pieces
          ++ back) := by
  obtain ⟨front, back, rowless, whole⟩ := Insert.exists_rowsPlace calls
  refine ⟨visible front, visible back, ?_, ?_⟩
  · rw [rowless, layOut_eq_spaced, visible_append]
  · rw [whole, layOut_eq_spaced, visible_append, visible_append]
    cases (calls.flatMap InsertCall.givenRows).isEmpty with
    | true => rfl
    | false => simp only [Bool.false_eq_true, if_false, visible_rows h]

theorem valuesTable_pieces {rows : List (List Term)} (h : rowsRender rows = true) :
    (valuesTable rows).pieces = spaced ((writtenRows rows).map Part.pieces) := by
  rw [← visible_rows h, ← layOut_eq_spaced]
  rfl

theorem shows_valuesTable (rows : List (List Term)) : shows (valuesTable rows).pieces = true :=
  shows_joinPieces " " [] _ rfl

theorem aliased_valuesTable {rows : List (List Term)} (h : rowsRender rows = true) (name : String) :
    (aliased (valuesTable rows) name).pieces =
      named (spaced ((writtenRows rows).map Part.pieces)) name := by
  rw [aliased_pieces _ name (shows_valuesTable rows), valuesTable_pieces h]

/-- Of rows whose values render, an insert writes those that have values, in the order in
which they are given, each in parentheses with all its values; so does a table of values.
The text is the one with the keyword before rows only, exactly where some row has a
value, or where an insert has no row at all. -/
theorem values_rows_written (calls : List InsertCall) (before after : List SelectCall)
    (name : String) :
    (rowsRender (calls.flatMap InsertCall.givenRows) = true →
      ∃ front back : List (List Piece),
        layOut (Insert.build (Builder.insert.besides .rows calls)).terms =
          spaced (front ++ back) ∧
        layOut (Insert.build calls).terms =
          spaced (front
            ++ (if (calls.flatMap InsertCall.givenRows).isEmpty then []
              else writtenRows (calls.flatMap InsertCall.givenRows)).map Part.pieces
            ++ back) ∧
        ((Program.insert calls).query.sql =
            textFrom 1 (spaced (front
              ++ (listPart "values" (rowEntries (calls.flatMap InsertCall.givenRows))).map
                Part.pieces
              ++ back)) ↔
          calls.flatMap InsertCall.givenRows = [] ∨
            ∃ row ∈ calls.flatMap InsertCall.givenRows, row ≠ [])) ∧
    ∃ front back : List Piece, ∀ rows : List (List Term), rowsRender rows = true →
      layOut (Select.build (before ++ .sourceValues rows name :: after)).terms =
        front ++ named (spaced ((writtenRows rows).map Part.pieces)) name ++ back ∧
      (textFrom 1 (spaced ((writtenRows rows).map Part.pieces)) =
          textFrom 1 (spaced ((listPart "values" (rowEntries rows)).map Part.pieces)) ↔
        ∃ row ∈ rows, row ≠ []) := by
  refine ⟨?_, ?_⟩
  · intro h
    obtain ⟨front, back, bare, whole⟩ := Insert.layOut_rows h
    refine ⟨front, back, bare, whole, ?_⟩
    rw [Program.query_eq, Program.terms, whole, assemble]
    cases rowless : (calls.flatMap InsertCall.givenRows).isEmpty with
    | true =>
      have noRows := List.isEmpty_iff.mp rowless
      simp [noRows, rowEntries, listPart]
    | false =>
      have given := List.isEmpty_eq_false_iff.mp rowless
      simpa [given] using
        text_writtenRows_iff 1 front back (calls.flatMap InsertCall.givenRows)
  · have place : Relocates (fun rows => (aliased (valuesTable rows) name).pieces) fun rows =>
        layOut (Select.build (before ++ .sourceValues rows name :: after)).terms :=
      relocates_source before after fun _ => rfl
    obtain ⟨front, back, around⟩ := place
    refine ⟨front, back, fun rows h => ⟨?_, ?_⟩⟩
    · have seen : shows (aliased (valuesTable rows) name).pieces = true := by
        rw [aliased_valuesTable h, named, shows_append, shows_bracketed]
        rfl
      rw [← aliased_valuesTable h]
      exact around rows seen
    · simpa using text_writtenRows_iff 1 [] [] rows

theorem values_rows_written_readings :
    let calls : List InsertCall :=
      [.values [[], [.literal (.int4 1), .default]], .into (.word "readings"), .value [],
        .value [.word "x"]]
    rowsRender (calls.flatMap InsertCall.givenRows) = true ∧
      (Program.insert calls).query.sql = "insert into readings values ($1, default), ($2)" ∧
      ∃ front back : List (List Piece),
        layOut (Insert.build calls).terms =
          spaced (front ++ (writtenRows (calls.flatMap InsertCall.givenRows)).map Part.pieces
            ++ back) := by
  intro calls
  have given : rowsRender (calls.flatMap InsertCall.givenRows) = true := by decide
  obtain ⟨front, back, -, whole, -⟩ := (values_rows_written calls [] [] "v").1 given
  exact ⟨given, by decide +kernel, front, back, whole⟩

/-- A row without values is not written, but the keyword in front of it is. -/
theorem values_keyword_without_row :
    rowsRender [[]] = true ∧ rowEntries [[]] = [] ∧
      (Program.insert [.into (.word "t"), .value []]).query.sql = "insert into t values" ∧
      (Program.select [.sourceValues [[]] "v"]).query.sql = "select from (values) v" := by
  decide +kernel

end BoundSql
