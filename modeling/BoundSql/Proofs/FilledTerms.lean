import BoundSql.Proofs.Filling
import Mathlib.Data.List.Forall2

/-! # Filled terms

A filling changes the slots of the pieces of a term and nothing else, whether the
term stands for itself, is given as a value or is given as raw SQL. -/
set_option autoImplicit false
namespace BoundSql

open List (Forall₂)

def Piece.fill (f : Filling) : Piece → Piece
  | .text s => .text s
  | .slot place => .slot (f place).value

def fillPieces (f : Filling) (pieces : List Piece) : List Piece := pieces.map (Piece.fill f)

section Pieces
variable (f : Filling)

theorem shows_fillPieces (pieces : List Piece) : shows (fillPieces f pieces) = shows pieces := by
  induction pieces with
  | nil => rfl
  | cons p rest ih =>
    have own : (p.fill f).shows = p.shows := by cases p <;> rfl
    have later : (rest.map (Piece.fill f)).any Piece.shows = rest.any Piece.shows := ih
    rw [fillPieces, List.map_cons, shows, List.any_cons, own, later]
    rfl

theorem joinPieces_fillPieces (separator : String) (children : List (List Piece)) :
    joinPieces separator (children.map (fillPieces f)) =
      fillPieces f (joinPieces separator children) := by
  have kept : ∀ cs : List (List Piece),
      (cs.map (fillPieces f)).filter shows = (cs.filter shows).map (fillPieces f) := by
    intro cs
    rw [List.filter_map]
    congr 1
    apply List.filter_congr
    intro c _
    exact shows_fillPieces f c
  induction children with
  | nil => rfl
  | cons c rest ih =>
    rw [List.map_cons]
    have filled := shows_fillPieces f c
    cases h : shows c with
    | false =>
      rw [h] at filled
      rw [joinPieces_cons_hidden separator _ _ filled, joinPieces_cons_hidden separator _ _ h, ih]
    | true =>
      rw [h] at filled
      by_cases last : rest.filter shows = []
      · have lastFilled : (rest.map (fillPieces f)).filter shows = [] := by rw [kept, last]; rfl
        rw [joinPieces_cons_last separator _ _ filled lastFilled,
          joinPieces_cons_last separator _ _ h last]
      · have moreFilled : (rest.map (fillPieces f)).filter shows ≠ [] := by
          rw [kept]
          simpa using last
        rw [joinPieces_cons_more separator _ _ filled moreFilled,
          joinPieces_cons_more separator _ _ h last, ih]
        simp [fillPieces, Piece.fill]

theorem enclosedPieces_fillPieces (lead : String) (inner : List Piece) :
    enclosedPieces lead (fillPieces f inner) = fillPieces f (enclosedPieces lead inner) := by
  rw [enclosedPieces, enclosedPieces, shows_fillPieces]
  cases shows inner with
  | false => rfl
  | true => simp [fillPieces, Piece.fill]

theorem Quantifier.aroundPieces_fillPieces (q : Quantifier) (inner : List Piece) :
    q.aroundPieces (fillPieces f inner) = fillPieces f (q.aroundPieces inner) := by
  simp [aroundPieces, fillPieces, Piece.fill]

theorem textFrom_fillPieces (n : Nat) (pieces : List Piece) :
    textFrom n (fillPieces f pieces) = textFrom n pieces := by
  induction pieces generalizing n with
  | nil => rfl
  | cons p rest ih =>
    rw [fillPieces] at ih
    cases p with
    | text s => rw [fillPieces, List.map_cons, Piece.fill, textFrom_text, textFrom_text, ih]
    | slot place => rw [fillPieces, List.map_cons, Piece.fill, textFrom_slot, textFrom_slot, ih]

theorem slotValues_fillPieces (pieces : List Piece) :
    slotValues (fillPieces f pieces) = (slotValues pieces).map fun place => (f place).value := by
  induction pieces with
  | nil => rfl
  | cons p rest ih =>
    rw [fillPieces] at ih
    cases p with
    | text s => rw [fillPieces, List.map_cons, Piece.fill, slotValues_text, slotValues_text, ih]
    | slot place =>
      rw [fillPieces, List.map_cons, Piece.fill, slotValues_slot, slotValues_slot,
        ih, List.map_cons]

end Pieces

def Term.Filled (f : Filling) (form t : Term) : Prop := t.pieces = fillPieces f form.pieces

abbrev FilledEach (f : Filling) : List Term → List Term → Prop := Forall₂ (Term.Filled f)

section Terms
variable {f : Filling}

theorem FilledEach.piecesEach {forms ts : List Term} (h : FilledEach f forms ts) :
    Term.piecesEach ts = (Term.piecesEach forms).map (fillPieces f) := by
  induction h with
  | nil => rfl
  | cons first _ ih => rw [Term.piecesEach, first, ih]; rfl

theorem FilledEach.append {a b ts us : List Term} (h : FilledEach f a ts) (k : FilledEach f b us) :
    FilledEach f (a ++ b) (ts ++ us) := List.rel_append h k

theorem isEmpty_of_forall₂ {α β : Type} {R : α → β → Prop} {xs : List α} {ys : List β}
    (h : Forall₂ R xs ys) : ys.isEmpty = xs.isEmpty := by
  cases h <;> rfl

theorem FilledEach.isEmpty {forms ts : List Term} (h : FilledEach f forms ts) :
    ts.isEmpty = forms.isEmpty := isEmpty_of_forall₂ h

theorem Term.Filled.literal (l : Literal) : Term.Filled f (.literal l) (.literal l) := rfl

theorem Term.Filled.word (s : String) : Term.Filled f (.word s) (.word s) := rfl

theorem Term.Filled.group {forms ts : List Term} (separator : String) (h : FilledEach f forms ts) :
    Term.Filled f (.group separator forms) (.group separator ts) := by
  rw [Term.Filled, Term.pieces, Term.pieces, h.piecesEach, joinPieces_fillPieces]

theorem Term.Filled.nested {forms ts : List Term} (h : FilledEach f forms ts) :
    Term.Filled f (.nested forms) (.nested ts) := by
  rw [Term.Filled, Term.pieces, Term.pieces, h.piecesEach, joinPieces_fillPieces]

theorem Term.Filled.paren {forms ts : List Term} (lead separator : String)
    (h : FilledEach f forms ts) :
    Term.Filled f (.paren lead separator forms) (.paren lead separator ts) := by
  rw [Term.Filled, Term.pieces, Term.pieces, h.piecesEach, joinPieces_fillPieces,
    enclosedPieces_fillPieces]

theorem Term.Filled.parenthesized {form t : Term} (h : Term.Filled f form t) :
    Term.Filled f form.parenthesized t.parenthesized := .paren "" comma (.cons h .nil)

theorem Filler.pieces_arg (filler : Filler) : filler.term.arg.pieces = [.slot filler.value] := by
  rw [filler.binds]
  rfl

/-- A value keeps its places when it is classified. -/
theorem Term.fillValue_filled_of (t : Term) (h : Term.Filled f t (t.fill f)) :
    Term.Filled f t.arg (t.fillValue f).arg := by
  cases t with
  | literal l =>
    rw [Term.Filled, Term.fillValue, Literal.fill]
    by_cases null : l = .null
    · subst null
      rfl
    · obtain ⟨place, classified, slot⟩ := l.exists_slot null
      rw [slot, Term.arg, classified]
      exact (f place).pieces_arg
  | bound place => exact (f place).pieces_arg
  | quantified q payload => cases payload <;> exact h
  | unbound l => exact h
  | default => exact h
  | group separator items => exact h
  | paren lead separator items => exact h
  | nested items => exact h

theorem Term.fill_quantified (q : Quantifier) (payload : Term) :
    (Term.quantified q payload).fill f = .quantified q (payload.fillValue f) := by
  cases payload <;> rfl

mutual

theorem Term.fill_filled (t : Term) : Term.Filled f t (t.fill f) := by
  cases t with
  | literal l => rfl
  | unbound l => rfl
  | bound place => rfl
  | quantified q payload =>
    have inner := payload.fillValue_filled_of (Term.fill_filled payload)
    rw [Term.Filled, Term.fill_quantified, Term.pieces_quantified, Term.pieces_quantified, inner,
      Quantifier.aroundPieces_fillPieces]
  | default => rfl
  | group separator items => exact .group separator (Term.fillEach_filled items)
  | paren lead separator items => exact .paren lead separator (Term.fillEach_filled items)
  | nested items => exact .nested (Term.fillEach_filled items)

theorem Term.fillEach_filled (ts : List Term) : FilledEach f ts (Term.fillEach f ts) := by
  cases ts with
  | nil => exact .nil
  | cons t rest => exact .cons (Term.fill_filled t) (Term.fillEach_filled rest)

end

theorem Term.fillValue_filled (t : Term) : Term.Filled f t.arg (t.fillValue f).arg :=
  t.fillValue_filled_of t.fill_filled

theorem Term.arg_raw (t : Term) : t.raw.arg = t.raw := by
  cases t <;> rfl

theorem Term.fillRaw_filled (t : Term) : Term.Filled f t.raw (t.fillRaw f).raw := by
  cases t with
  | literal l => rfl
  | unbound l => rfl
  | bound place => rfl
  | quantified q payload =>
    have inner := Term.fillRaw_filled payload
    rw [Term.Filled, Term.fillRaw, Term.raw, Term.raw, Term.pieces_quantified,
      Term.pieces_quantified, Term.arg_raw, Term.arg_raw, inner,
      Quantifier.aroundPieces_fillPieces]
  | default => rfl
  | group separator items => exact Term.fill_filled (.group separator items)
  | paren lead separator items => exact Term.fill_filled (.paren lead separator items)
  | nested items => exact Term.fill_filled (.nested items)

theorem FilledEach.map {g : Term → Term} {h : Term → Term}
    (each : ∀ t : Term, Term.Filled f (g t) (h t)) (ts : List Term) :
    FilledEach f (ts.map g) (ts.map h) := by
  induction ts with
  | nil => exact .nil
  | cons t rest ih => exact .cons (each t) ih

theorem FilledEach.args (ts : List Term) :
    FilledEach f (ts.map Term.arg) ((ts.map (Term.fillValue f)).map Term.arg) := by
  rw [List.map_map]
  exact FilledEach.map Term.fillValue_filled ts

theorem FilledEach.raws (ts : List Term) :
    FilledEach f (ts.map Term.raw) ((ts.map (Term.fillRaw f)).map Term.raw) := by
  rw [List.map_map]
  exact FilledEach.map Term.fillRaw_filled ts

end Terms

end BoundSql
