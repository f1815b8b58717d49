import Mathlib.Data.List.Forall2
import BoundSql.Proofs.Exchanges
import BoundSql.Transaction.Steps

/-! # Ways to read an answer

However the answer to a query is read, one statement is sent.  All ways to read it fail
together where the rows cannot be had, and otherwise tell the same of the same rows: the
first one alone is looked at where the first one is asked for, and a list of values ends
at the first row that cannot be decoded.  A record of named columns is decoded column by
column in the same manner. -/
set_option autoImplicit false
namespace BoundSql

open List (Forall₂)

section Traversals
variable {ε α β : Type} (f : α → Except ε β)

/-- An item fails in this way, and none before it fails. -/
def FailsFirst (items : List α) (e : ε) : Prop :=
  ∃ before item after, items = before ++ item :: after ∧
    (∀ x ∈ before, ∃ y, f x = .ok y) ∧ f item = .error e

variable {f} {x : α} {y : β} {e : ε}

theorem mapM_cons_of_ok (h : f x = .ok y) (rest : List α) :
    (x :: rest).mapM f = (rest.mapM f).map (y :: ·) := by
  rw [List.mapM_cons, h]
  cases rest.mapM f <;> rfl

theorem mapM_cons_of_error (h : f x = .error e) (rest : List α) :
    (x :: rest).mapM f = .error e := by
  rw [List.mapM_cons, h]
  rfl

theorem failsFirst_cons_of_ok (h : f x = .ok y) (rest : List α) :
    FailsFirst f (x :: rest) e ↔ FailsFirst f rest e := by
  constructor
  · rintro ⟨before, item, after, split, fine, fails⟩
    rcases List.cons_eq_append_iff.mp split with ⟨rfl, here⟩ | ⟨front, rfl, later⟩
    · obtain ⟨rfl, -⟩ := List.cons.inj here
      rw [h] at fails
      cases fails
    · exact ⟨front, item, after, later, fun z member => fine z (List.mem_cons_of_mem _ member),
        fails⟩
  · rintro ⟨before, item, after, rfl, fine, fails⟩
    exact ⟨x :: before, item, after, rfl, List.forall_mem_cons.mpr ⟨⟨y, h⟩, fine⟩, fails⟩

theorem failsFirst_cons_of_error (h : f x = .error e) (rest : List α) (other : ε) :
    FailsFirst f (x :: rest) other ↔ e = other := by
  constructor
  · rintro ⟨before, item, after, split, fine, fails⟩
    rcases List.cons_eq_append_iff.mp split with ⟨rfl, here⟩ | ⟨front, rfl, -⟩
    · obtain ⟨rfl, -⟩ := List.cons.inj here
      exact Except.error.inj (h.symm.trans fails)
    · obtain ⟨z, success⟩ := fine x List.mem_cons_self
      rw [h] at success
      cases success
  · rintro rfl
    exact ⟨[], x, rest, rfl, List.forall_mem_nil _, h⟩

variable (f)

theorem mapM_eq_ok_iff (items : List α) (values : List β) :
    items.mapM f = .ok values ↔ Forall₂ (fun x y => f x = .ok y) items values := by
  induction items generalizing values with
  | nil =>
    rw [List.mapM_nil, List.forall₂_nil_left_iff]
    exact ⟨fun h => (Except.ok.inj h).symm, fun h => congrArg Except.ok h.symm⟩
  | cons x rest ih =>
    cases first : f x with
    | error e => simp [mapM_cons_of_error first, List.forall₂_cons_left_iff, first]
    | ok y =>
      rw [mapM_cons_of_ok first, List.forall₂_cons_left_iff]
      simp only [← ih, first, Except.ok.injEq]
      cases rest.mapM f with
      | error e => simp [Except.map]
      | ok others => simp [Except.map, eq_comm]

/-- A list of steps fails as the first of them that does. -/
theorem mapM_eq_error_iff (items : List α) (e : ε) :
    items.mapM f = .error e ↔ FailsFirst f items e := by
  induction items with
  | nil =>
    rw [List.mapM_nil]
    constructor
    · intro h
      cases h
    · rintro ⟨before, item, after, split, -⟩
      simp at split
  | cons x rest ih =>
    cases first : f x with
    | error other =>
      rw [mapM_cons_of_error first, failsFirst_cons_of_error first, Except.error.injEq]
    | ok y =>
      rw [mapM_cons_of_ok first, failsFirst_cons_of_ok first, ← ih]
      cases rest.mapM f <;> simp [Except.map]

theorem exists_mapM_eq_ok_iff (items : List α) :
    (∃ values, items.mapM f = .ok values) ↔ ∀ x ∈ items, ∃ y, f x = .ok y := by
  induction items with
  | nil => exact ⟨fun _ => List.forall_mem_nil _, fun _ => ⟨[], rfl⟩⟩
  | cons x rest ih =>
    rw [List.forall_mem_cons, ← ih]
    cases first : f x with
    | error e => simp [mapM_cons_of_error first]
    | ok y =>
      rw [mapM_cons_of_ok first]
      cases rest.mapM f <;> simp [Except.map]

end Traversals

theorem decodeRows_eq_mapM {α : Type} (decode : Row → Except Failure α) (rows : List Row) :
    decodeRows decode rows = rows.mapM decode := by
  induction rows with
  | nil => rfl
  | cons row rest ih =>
    rw [decodeRows, ih]
    cases first : decode row with
    | error failure => rw [mapM_cons_of_error first]
    | ok value => rw [mapM_cons_of_ok first]

/-- Reads a column under its name, as the type that is asked for. -/
def Row.readField (row : Row) (field : String × CellType) : Except Failure Cell :=
  row.readColumn field.1 field.2

theorem Row.readColumns_eq_mapM (row : Row) (fields : List (String × CellType)) :
    row.readColumns fields = fields.mapM row.readField := by
  induction fields with
  | nil => rfl
  | cons field rest ih =>
    rw [readColumns, ih]
    cases first : row.readField field with
    | error failure =>
      have column : row.readColumn field.1 field.2 = .error failure := first
      rw [mapM_cons_of_error first, column]
    | ok cell =>
      have column : row.readColumn field.1 field.2 = .ok cell := first
      rw [mapM_cons_of_ok first, column]

theorem Row.readField_error {row : Row} {field : String × CellType} {failure : Failure}
    (h : row.readField field = .error failure) : ∃ message, failure = .decode field.1 message := by
  have named {read : Except CellFault Cell}
      (h : (read.mapError fun fault => Failure.decode field.1 fault.message) = .error failure) :
      ∃ message, failure = .decode field.1 message := by
    cases read with
    | error fault => exact ⟨fault.message, (Except.error.inj h).symm⟩
    | ok cell => cases h
  exact named h

/-- A record is decoded exactly when all of its columns are, into their cells. -/
theorem RowType.decode_record_eq_ok_iff (row : Row) (fields : List (String × CellType))
    (cells : List Cell) :
    (RowType.record fields).decode row = .ok (.record cells) ↔
      Forall₂ (fun field cell => row.readField field = .ok cell) fields cells := by
  rw [← mapM_eq_ok_iff, decode, row.readColumns_eq_mapM]
  cases fields.mapM row.readField <;> simp [Except.map]

theorem RowType.exists_decode_record_iff (row : Row) (fields : List (String × CellType)) :
    (∃ decoded, (RowType.record fields).decode row = .ok decoded) ↔
      ∀ field ∈ fields, ∃ cell, row.readField field = .ok cell := by
  rw [← exists_mapM_eq_ok_iff, decode, row.readColumns_eq_mapM]
  cases fields.mapM row.readField <;> simp [Except.map]

/-- Otherwise the failure is that of the first column that cannot be read. -/
theorem RowType.decode_record_eq_error_iff (row : Row) (fields : List (String × CellType))
    (failure : Failure) :
    (RowType.record fields).decode row = .error failure ↔
      FailsFirst row.readField fields failure := by
  rw [← mapM_eq_error_iff, decode, row.readColumns_eq_mapM]
  cases fields.mapM row.readField <;> simp [Except.map]

section Requests
variable {β : Type} (q : Query) (reading : Reading β) (reply : Reply) (c : Connection)

/-- The log grows by what arrives of one request for the statement. -/
theorem Query.log_run :
    (q.run reading reply c).2.log = c.log ++ arrivals [c.sendExchange q.sql q.params reply] := by
  rw [arrivals_singleton]
  exact c.log_send q.sql q.params reply

/-- The body of a transaction in which the query is run alone and read in this way. -/
def Query.asBody {γ : Type} (ending : Except Failure γ) (ignoresFailure : Bool)
    (record : StepRecord β) : Body (StepRecord β) γ :=
  Body.ofSteps ending [⟨q.sql, q.params, reading, ignoresFailure⟩] record

variable {γ : Type} (ending : Except Failure γ) (ignoresFailure : Bool) (record : StepRecord β)

/-- Behind its statement the body is through, with what was read. -/
theorem Query.asBody_eq : ∃ outcome : Except Failure β → Except Failure γ,
    q.asBody reading ending ignoresFailure record =
      .send q.sql q.params fun report =>
        .done (record.add (reading report)) (outcome (reading report)) := by
  refine ⟨fun result => if ignoresFailure then ending else result.bind fun _ => ending, ?_⟩
  refine congrArg (Body.send q.sql q.params) (funext fun report => ?_)
  simp only
  generalize reading report = result
  cases ignoresFailure <;> cases result <;> rfl

/-- In a transaction too there is one request, and the same comes of it. -/
theorem Query.run_asBody :
    (q.asBody reading ending ignoresFailure record).exchanges [reply] c =
        [c.sendExchange q.sql q.params reply] ∧
      ((q.asBody reading ending ignoresFailure record).run [reply] c).1.2 =
        record.add (q.run reading reply c).1 ∧
      ((q.asBody reading ending ignoresFailure record).run [reply] c).2 =
        (q.run reading reply c).2 := by
  obtain ⟨outcome, body⟩ := q.asBody_eq reading ending ignoresFailure record
  rw [body]
  exact ⟨rfl, rfl, rfl⟩

end Requests

section Reports
variable {α : Type} (decode : Row → Except Failure α) {report : Except DriverError Answer}

/-- Where there are no rows because of a failure, it is the outcome of every reading. -/
theorem Reading.of_rows_error {failure : Failure} (h : Reading.rows report = .error failure) :
    Reading.firstRow report = .error failure ∧ Reading.firstRow? report = .error failure ∧
      Reading.all decode report = .error failure ∧ Reading.first decode report = .error failure ∧
      Reading.first? decode report = .error failure := by
  have firstRow : Reading.firstRow report = .error failure := by rw [Reading.firstRow, h]
  have firstRow? : Reading.firstRow? report = .error failure := by
    rw [Reading.firstRow?, h]
    rfl
  refine ⟨firstRow, firstRow?, ?_, ?_, ?_⟩
  · rw [Reading.all, h]
    rfl
  · rw [Reading.first, firstRow]
    rfl
  · rw [Reading.first?, firstRow?]

variable {rows : List Row}

theorem Reading.firstRow?_of_rows (h : Reading.rows report = .ok rows) :
    Reading.firstRow? report = .ok rows.head? := by
  rw [Reading.firstRow?, h]
  rfl

theorem Reading.firstRow_of_rows (h : Reading.rows report = .ok rows) :
    Reading.firstRow report = rows.head?.elim (.error expectedOneRow) .ok := by
  rw [Reading.firstRow, h]
  cases rows <;> rfl

theorem Reading.first_of_rows (h : Reading.rows report = .ok rows) :
    Reading.first decode report = rows.head?.elim (.error expectedOneRow) decode := by
  rw [Reading.first, Reading.firstRow_of_rows h]
  cases rows <;> rfl

theorem Reading.first?_of_rows (h : Reading.rows report = .ok rows) :
    Reading.first? decode report =
      rows.head?.elim (.ok none) fun row => (decode row).map some := by
  rw [Reading.first?, Reading.firstRow?_of_rows h]
  cases rows <;> rfl

theorem Reading.all_of_rows (h : Reading.rows report = .ok rows) :
    Reading.all decode report = rows.mapM decode := by
  rw [Reading.all, h, ← decodeRows_eq_mapM]
  rfl

end Reports

/-- Whatever is read from the answer to a query, the connection is left in the same way, and
one request is made, for the statement with its arguments; in a transaction it is the same.
A failure to get the rows is the failure of all ways to read them.  Of rows that came, the
first one is told, or that there is none; all of them are decoded in their order, or the
failure is that of the first one that cannot be; where one value is asked for, only the
first row is decoded, and the others do not matter.  A record of named columns comes from
a row exactly when each of the columns can be read, and otherwise the failure names the
first one, in the order of the record, that cannot. -/
theorem readings_agree {α : Type} (decode : Row → Except Failure α) (q : Query) (reply : Reply)
    (c : Connection) :
    (∀ {β : Type} (reading : Reading β),
      (q.run reading reply c).2 = (q.run Reading.rows reply c).2 ∧
      (q.run reading reply c).2.log =
        c.log ++ arrivals [c.sendExchange q.sql q.params reply] ∧
      ∀ {γ : Type} (ending : Except Failure γ) (ignoresFailure : Bool) (record : StepRecord β),
        let body := q.asBody reading ending ignoresFailure record
        body.exchanges [reply] c = [c.sendExchange q.sql q.params reply] ∧
          (body.run [reply] c).1.2 = record.add (q.run reading reply c).1 ∧
          (body.run [reply] c).2 = (q.run reading reply c).2) ∧
    (∀ failure, (q.run Reading.rows reply c).1 = .error failure →
      (q.run Reading.firstRow reply c).1 = .error failure ∧
      (q.run Reading.firstRow? reply c).1 = .error failure ∧
      (q.run (Reading.all decode) reply c).1 = .error failure ∧
      (q.run (Reading.first decode) reply c).1 = .error failure ∧
      (q.run (Reading.first? decode) reply c).1 = .error failure) ∧
    (∀ rows, (q.run Reading.rows reply c).1 = .ok rows →
      (q.run Reading.firstRow? reply c).1 = .ok rows.head? ∧
      (q.run Reading.firstRow reply c).1 =
        rows.head?.elim (.error (.notFound "Expected one row, got none")) .ok ∧
      (∀ values, (q.run (Reading.all decode) reply c).1 = .ok values ↔
        Forall₂ (fun row value => decode row = .ok value) rows values) ∧
      (∀ failure, (q.run (Reading.all decode) reply c).1 = .error failure ↔
        FailsFirst decode rows failure) ∧
      (q.run (Reading.first decode) reply c).1 =
        rows.head?.elim (.error (.notFound "Expected one row, got none")) decode ∧
      (q.run (Reading.first? decode) reply c).1 =
        rows.head?.elim (.ok none) fun row => (decode row).map some) ∧
    ∀ (row : Row) (fields : List (String × CellType)),
      (∀ cells, (RowType.record fields).decode row = .ok (.record cells) ↔
        Forall₂ (fun field cell => row.readField field = .ok cell) fields cells) ∧
      ((∃ decoded, (RowType.record fields).decode row = .ok decoded) ↔
        ∀ field ∈ fields, ∃ cell, row.readField field = .ok cell) ∧
      ∀ failure, (RowType.record fields).decode row = .error failure ↔
        ∃ before field after message, fields = before ++ field :: after ∧
          (∀ earlier ∈ before, ∃ cell, row.readField earlier = .ok cell) ∧
          row.readField field = .error failure ∧ failure = .decode field.1 message := by
  refine ⟨fun reading => ⟨rfl, q.log_run reading reply c, fun ending ignoresFailure record =>
      q.run_asBody reading reply c ending ignoresFailure record⟩,
    fun failure failed => Reading.of_rows_error decode failed, fun rows came => ?_,
    fun row fields => ⟨RowType.decode_record_eq_ok_iff row fields,
      RowType.exists_decode_record_iff row fields, fun failure => ?_⟩⟩
  · have all : (q.run (Reading.all decode) reply c).1 = rows.mapM decode :=
      Reading.all_of_rows decode came
    refine ⟨Reading.firstRow?_of_rows came, Reading.firstRow_of_rows came, fun values => ?_,
      fun failure => ?_, Reading.first_of_rows decode came, Reading.first?_of_rows decode came⟩
    · rw [all, mapM_eq_ok_iff]
    · rw [all, mapM_eq_error_iff]
  · rw [RowType.decode_record_eq_error_iff]
    constructor
    · rintro ⟨before, field, after, split, fine, fails⟩
      obtain ⟨message, named⟩ := Row.readField_error fails
      exact ⟨before, field, after, message, split, fine, fails, named⟩
    · rintro ⟨before, field, after, message, split, fine, fails, -⟩
      exact ⟨before, field, after, split, fine, fails⟩

def people : List Row :=
  [⟨[(⟨"id", .int4⟩, some (.int4 1)), (⟨"name", .text⟩, some (.text "Ann"))]⟩,
    ⟨[(⟨"id", .int4⟩, some (.int4 2)), (⟨"name", .text⟩, none)]⟩]

theorem readings_agree_people :
    let q : Query := ⟨"select id, name from people", []⟩
    let reply : Reply := .answer ⟨people, "SELECT 2"⟩
    let person : RowType := .record [("id", .value .int4), ("name", .value .text)]
    (q.run Reading.rows reply {}).1 = .ok people ∧
      (q.run (Reading.first person.decode) reply {}).1 =
        .ok (.record [some (.int4 1), some (.text "Ann")]) ∧
      (q.run (Reading.all person.decode) reply {}).1 =
        .error (.decode "name" "error deserializing column 1") := by
  intro q reply person
  have sendable : isSendable q.sql = true := by decide +kernel
  have rows : (q.run Reading.rows reply {}).1 = .ok people := by
    simp [Query.run, Connection.send, sendable, reply, Reading.rows]
  obtain ⟨-, -, came, -⟩ := readings_agree person.decode q reply {}
  obtain ⟨-, -, -, all, first, -⟩ := came people rows
  refine ⟨rows, first, (all _).mpr ⟨[_], _, [], rfl, ?_, rfl⟩⟩
  intro row member
  rw [List.mem_singleton.mp member]
  exact ⟨.record [some (.int4 1), some (.text "Ann")], rfl⟩

end BoundSql
