import BoundSql.Proofs.Relocation

/-! # Terms without a text

Nothing is written of an empty text, and of a list in which nothing is written.  Such a
term binds nothing, so it leaves no trace in a query. -/
set_option autoImplicit false
namespace BoundSql

mutual

/-- Nothing is written of the term. -/
def Term.isBlank : Term → Bool
  | .literal l | .unbound l => l.render.isEmpty
  | .bound _ | .quantified _ _ | .default => false
  | .group _ items | .paren _ _ items | .nested items => Term.areBlank items

def Term.areBlank : List Term → Bool
  | [] => true
  | t :: rest => t.isBlank && Term.areBlank rest

end

mutual

/-- A term shows unless it is blank. -/
theorem Term.shows_pieces (t : Term) : shows t.pieces = !t.isBlank := by
  cases t with
  | literal l => simp [pieces, isBlank, shows, Piece.shows]
  | unbound l => simp [pieces, isBlank, shows, Piece.shows]
  | bound v => rfl
  | quantified q payload =>
    rw [Term.pieces_quantified, isBlank]
    cases q <;> rfl
  | default => rfl
  | group separator items =>
    rw [pieces, shows_joinPieces_any, Term.any_shows items, isBlank]
  | paren lead separator items =>
    rw [pieces, shows_enclosedPieces, shows_joinPieces_any, Term.any_shows items, isBlank]
  | nested items => rw [pieces, shows_joinPieces_any, Term.any_shows items, isBlank]

theorem Term.any_shows (ts : List Term) : (Term.piecesEach ts).any shows = !Term.areBlank ts := by
  cases ts with
  | nil => rfl
  | cons t rest =>
    rw [piecesEach, List.any_cons, Term.shows_pieces t, Term.any_shows rest, areBlank,
      Bool.not_and]

end

/-- A term without a text does not change the arguments, wherever it stands. -/
theorem Term.write_blank {t : Term} {args : Arguments} (empty : (t.write args).1 = "") :
    (t.write args).2 = args := by
  have written := Term.write_writes t args
  have hidden : shows t.pieces = false := by
    rw [← textFrom_eq_empty_iff, ← written.text]
    exact empty
  have values := written.values
  rw [slotValues_of_not_shows _ hidden, List.append_nil] at values
  exact congrArg Arguments.mk (Array.toList_inj.mp values)

/-- A row of terms shows unless all of them are blank. -/
theorem shows_layOut (terms : List Term) : shows (layOut terms) = !Term.areBlank terms := by
  rw [layOut, shows_joinPieces_any, Term.any_shows]

theorem compile_eq_empty_iff (t : Term) : (compile [t]).sql = "" ↔ t.isBlank = true := by
  rw [compile_eq_assemble, assemble, textFrom_eq_empty_iff, shows_layOut, Term.areBlank,
    Term.areBlank, Bool.and_true, Bool.not_eq_false']

end BoundSql
