import BoundSql.Proofs.ShorterTexts

/-! # Rows with fewer words

A row that lacks some words of another one has a shorter text, whatever else the two
rows have in common: words have no slots, so the placeholders behind them keep their
numbers. -/
set_option autoImplicit false
namespace BoundSql

/-- The first row is the second one without some parts that show and have no slot. -/
inductive Thinned : List (List Piece) → List (List Piece) → Prop
  | nil : Thinned [] []
  | keep (part : List Piece) {less more : List (List Piece)} (h : Thinned less more) :
    Thinned (part :: less) (part :: more)
  | drop {word : List Piece} (seen : shows word = true) (bare : slotValues word = [])
    {less more : List (List Piece)} (h : Thinned less more) : Thinned less (word :: more)

theorem Thinned.refl (row : List (List Piece)) : Thinned row row := by
  induction row with
  | nil => exact .nil
  | cons part rest ih => exact .keep part ih

theorem Thinned.append {less more others rest : List (List Piece)} (h : Thinned less more)
    (k : Thinned others rest) : Thinned (less ++ others) (more ++ rest) := by
  induction h with
  | nil => exact k
  | keep part _ ih => exact .keep part ih
  | drop seen bare _ ih => exact .drop seen bare ih

theorem Thinned.sublist {less more : List (List Piece)} (h : Thinned less more) :
    less.Sublist more := by
  induction h with
  | nil => exact .slnil
  | keep part _ ih => exact ih.cons_cons part
  | drop _ _ _ ih => exact ih.cons _

theorem Thinned.countP_shows {less more : List (List Piece)} (h : Thinned less more) :
    less.countP shows + more.length = more.countP shows + less.length := by
  induction h with
  | nil => rfl
  | keep part _ ih =>
    rw [List.countP_cons, List.countP_cons, List.length_cons, List.length_cons]
    omega
  | drop seen _ _ ih =>
    rw [List.countP_cons_of_pos seen, List.length_cons]
    omega

/-- Rows of one text have the same words. -/
theorem Thinned.length_eq {less more : List (List Piece)} (h : Thinned less more) {n : Nat}
    (text : textFrom n (spaced more) = textFrom n (spaced less)) : more.length = less.length := by
  have pieces := countP_shows_eq (intercalate_sublist [Piece.text " "] h.sublist) text
  have parts := h.countP_shows
  have longer := h.sublist.length_le
  by_contra differ
  have strict := countP_intercalate_lt [Piece.text " "] h.sublist (by omega)
  omega

end BoundSql
