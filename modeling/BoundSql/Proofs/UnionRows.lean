import BoundSql.Proofs.RelocatedParts
import BoundSql.Proofs.SelectGrammar
import BoundSql.Proofs.ThinnedRows

/-! # The row of a union

The parts of a union are a row of parentheses with keywords between them.  A keyword is
chosen when its part is added, by the number of parts before it, but a part without
text leaves the row only when it is laid out, and its keyword stays.  So the row reads
as the parts from left to right exactly where every part shows. -/
set_option autoImplicit false
namespace BoundSql

/-- What a row of parts stands for, the last keyword being the outermost. -/
inductive SetExpression
  | part (pieces : List Piece)
  | union (keepAll : Bool) (left : SetExpression) (right : List Piece)

def keepsAll? (word : String) : Option Bool :=
  if word = unionKeyword false then some false
  else if word = unionKeyword true then some true
  else none

def readOn (left : SetExpression) : List Part → Option SetExpression
  | [] => some left
  | .word s :: .bracketed [part] :: rest =>
    (keepsAll? s).bind fun keepAll => readOn (.union keepAll left part) rest
  | _ => none

/-- Reads a row from left to right. -/
def readUnion : List Part → Option SetExpression
  | .bracketed [part] :: rest => readOn (.part part) rest
  | _ => none

/-- The parts joined from left to right, each by its own keyword. -/
def leftFold : List (Bool × List Piece) → Option SetExpression
  | [] => none
  | first :: rest =>
    some (rest.foldl (fun left part => .union part.1 left part.2) (.part first.2))

def partShows (part : Bool × List Piece) : Bool := shows part.2

def shownPart (part : Bool × List Piece) : List Part :=
  if partShows part then [.bracketed [part.2]] else []

def writtenBehind (part : Bool × List Piece) : List Part :=
  .word (unionKeyword part.1) :: shownPart part

def writtenParts : List (Bool × List Piece) → List Part
  | [] => []
  | first :: rest => shownPart first ++ rest.flatMap writtenBehind

def unionEntries (calls : List UnionCall) : List (Bool × List Piece) :=
  calls.flatMap UnionCall.partEntries

theorem shownPart_pieces (part : Bool × List Piece) :
    (shownPart part).map Part.pieces = [enclosedPieces "" part.2].filter shows := by
  rw [shownPart, enclosedPieces, partShows]
  cases seen : shows part.2 with
  | false => rfl
  | true => simp [Part.pieces, bracketed, listed, shows, Piece.shows]

theorem unionKeyword_shows (keepAll : Bool) : shows [.text (unionKeyword keepAll)] = true := by
  cases keepAll <;> decide

theorem visible_behindPart (part : Bool × Term) :
    visible (behindPart part) = (writtenBehind (part.1, part.2.pieces)).map Part.pieces := by
  have keyword := unionKeyword_shows part.1
  rw [writtenBehind, List.map_cons, shownPart_pieces, behindPart, visible]
  simp [Term.piecesEach, Term.pieces_parenthesized, Part.pieces, Term.word, Term.pieces,
    Literal.render, keyword]

/-- Laying out drops the parts without text and nothing else. -/
theorem visible_unionParts (parts : List (Bool × Term)) :
    visible (unionParts parts) =
      (writtenParts (parts.map fun part => (part.1, part.2.pieces))).map Part.pieces := by
  cases parts with
  | nil => rfl
  | cons first rest =>
    have behind : visible (rest.flatMap behindPart) =
        ((rest.map fun part => (part.1, part.2.pieces)).flatMap writtenBehind).map
          Part.pieces := by
      induction rest with
      | nil => rfl
      | cons part later ih =>
        rw [List.map_cons, List.flatMap_cons, List.flatMap_cons, List.map_append, ← ih,
          ← visible_behindPart, visible_append]
    have head : visible [first.2.parenthesized] =
        (shownPart (first.1, first.2.pieces)).map Part.pieces := by
      rw [shownPart_pieces, visible, Term.piecesEach, Term.pieces_parenthesized]
      rfl
    rw [List.map_cons, writtenParts, List.map_append, ← behind, ← head, ← visible_append]
    rfl

theorem writtenBehind_of_shows {part : Bool × List Piece} (h : partShows part = true) :
    writtenBehind part = [.word (unionKeyword part.1), .bracketed [part.2]] := by
  rw [writtenBehind, shownPart, if_pos h]

theorem writtenParts_of_shows {parts : List (Bool × List Piece)}
    (h : ∀ part ∈ parts, partShows part = true) : writtenParts parts = partsSentence parts := by
  cases parts with
  | nil => rfl
  | cons first rest =>
    rw [List.forall_mem_cons] at h
    rw [writtenParts, partsSentence, shownPart, if_pos h.1, List.singleton_append]
    exact congrArg _ (List.flatMap_congr fun part member =>
      writtenBehind_of_shows (h.2 part member))

/-- Each part but the first has a keyword, and each that shows has its parentheses. -/
theorem length_writtenParts (parts : List (Bool × List Piece)) :
    (writtenParts parts).length = parts.length - 1 + (parts.filter partShows).length := by
  have one (part : Bool × List Piece) :
      (shownPart part).length = ([part].filter partShows).length := by
    rw [shownPart]
    cases seen : partShows part <;> simp [seen]
  cases parts with
  | nil => rfl
  | cons first rest =>
    have behind : (rest.flatMap writtenBehind).length =
        rest.length + (rest.filter partShows).length := by
      induction rest with
      | nil => rfl
      | cons part later ih =>
        rw [List.flatMap_cons, List.length_append, ih, writtenBehind, List.length_cons,
          List.length_cons, ← List.singleton_append (l := later), List.filter_append,
          List.length_append, one]
        omega
    rw [writtenParts, List.length_append, behind, ← List.singleton_append (l := rest),
      List.filter_append, List.length_append, List.length_append, one, List.length_singleton]
    omega

/-- Without the parts that do not show, the row lacks keywords only. -/
theorem thinned_behind (parts : List (Bool × List Piece)) :
    Thinned (((parts.filter partShows).flatMap writtenBehind).map Part.pieces)
      ((parts.flatMap writtenBehind).map Part.pieces) := by
  induction parts with
  | nil => exact .nil
  | cons part rest ih =>
    cases seen : partShows part with
    | true =>
      rw [List.filter_cons_of_pos seen, List.flatMap_cons, List.flatMap_cons, List.map_append,
        List.map_append]
      exact (Thinned.refl _).append ih
    | false =>
      have hidden : writtenBehind part = [.word (unionKeyword part.1)] := by
        simp [writtenBehind, shownPart, seen]
      rw [List.filter_cons_of_neg (by simp [seen]), List.flatMap_cons, hidden]
      exact .drop (unionKeyword_shows part.1) rfl ih

/-- Where no part in front shows, the first one that does keeps its keyword in the row. -/
theorem thinned_headless (parts : List (Bool × List Piece)) :
    Thinned ((writtenParts (parts.filter partShows)).map Part.pieces)
      ((parts.flatMap writtenBehind).map Part.pieces) := by
  induction parts with
  | nil => exact .nil
  | cons part rest ih =>
    rw [List.flatMap_cons, writtenBehind, List.cons_append, List.map_cons]
    refine .drop (unionKeyword_shows part.1) rfl ?_
    cases seen : partShows part with
    | true =>
      rw [List.filter_cons_of_pos seen, writtenParts, List.map_append, List.map_append]
      exact (Thinned.refl _).append (thinned_behind rest)
    | false =>
      have hidden : shownPart part = [] := by simp [shownPart, seen]
      rw [List.filter_cons_of_neg (by simp [seen]), hidden, List.nil_append]
      exact ih

theorem thinned_writtenParts (parts : List (Bool × List Piece)) :
    Thinned ((writtenParts (parts.filter partShows)).map Part.pieces)
      ((writtenParts parts).map Part.pieces) := by
  cases parts with
  | nil => exact .nil
  | cons first rest =>
    cases seen : partShows first with
    | true =>
      rw [List.filter_cons_of_pos seen, writtenParts, writtenParts, List.map_append,
        List.map_append]
      exact (Thinned.refl _).append (thinned_behind rest)
    | false =>
      have hidden : shownPart first = [] := by simp [shownPart, seen]
      rw [List.filter_cons_of_neg (by simp [seen]), writtenParts, hidden, List.nil_append]
      exact thinned_headless rest

/-- A keyword without its part makes the text longer than that of the sentence. -/
theorem text_writtenParts_iff (parts : List (Bool × List Piece)) :
    textFrom 1 (spaced ((writtenParts parts).map Part.pieces)) =
        textFrom 1 (spaced ((partsSentence (parts.filter partShows)).map Part.pieces)) ↔
      parts.length ≤ 1 ∨ ∀ part ∈ parts, partShows part = true := by
  have sentence : partsSentence (parts.filter partShows) = writtenParts (parts.filter partShows) :=
    (writtenParts_of_shows fun part member => (List.mem_filter.mp member).2).symm
  rw [sentence]
  constructor
  · intro unchanged
    have filtered : (parts.filter partShows).filter partShows = parts.filter partShows :=
      List.filter_eq_self.mpr fun part member => (List.mem_filter.mp member).2
    have words := (thinned_writtenParts parts).length_eq unchanged
    have bound := List.length_filter_le partShows parts
    rw [List.length_map, List.length_map, length_writtenParts, length_writtenParts,
      filtered] at words
    by_cases few : parts.length ≤ 1
    · exact .inl few
    · exact .inr (List.length_filter_eq_length_iff.mp (by omega))
  · rintro (few | all)
    · match parts, few with
      | [], _ => rfl
      | [part], _ => cases seen : partShows part <;> simp [writtenParts, shownPart, seen]
    · rw [List.filter_eq_self.mpr all]

theorem readOn_behind (left : SetExpression) (rest : List (Bool × List Piece)) :
    readOn left (rest.flatMap writtenBehind) =
      if ∀ part ∈ rest, partShows part = true then
        some (rest.foldl (fun left part => .union part.1 left part.2) left)
      else none := by
  induction rest generalizing left with
  | nil => simp [readOn]
  | cons part later ih =>
    have keyword : keepsAll? (unionKeyword part.1) = some part.1 := by
      cases part.1 <;> decide
    rw [List.flatMap_cons]
    cases seen : partShows part with
    | true =>
      rw [writtenBehind_of_shows seen]
      simp only [List.cons_append, List.nil_append, readOn, keyword, Option.bind_some, ih,
        List.forall_mem_cons, seen, true_and, List.foldl_cons]
    | false =>
      -- the keyword stands at the end or before the next keyword
      have hidden : shownPart part = [] := by simp [shownPart, seen]
      rw [writtenBehind, hidden]
      cases later with
      | nil => simp [readOn, seen]
      | cons next others => simp [readOn, writtenBehind, seen]

theorem readUnion_writtenParts (parts : List (Bool × List Piece)) :
    readUnion (writtenParts parts) =
      if ∀ part ∈ parts, partShows part = true then leftFold parts else none := by
  cases parts with
  | nil => rfl
  | cons first rest =>
    cases seen : partShows first with
    | true =>
      simp only [writtenParts, shownPart, seen, if_true, List.singleton_append, readUnion,
        readOn_behind, leftFold, List.forall_mem_cons, true_and]
    | false =>
      cases rest with
      | nil => simp [writtenParts, shownPart, readUnion, seen]
      | cons next others => simp [writtenParts, writtenBehind, shownPart, readUnion, seen]

theorem layOut_union (calls : List UnionCall) :
    layOut (Union.build calls).terms =
      spaced ((writtenParts (unionEntries calls)).map Part.pieces
        ++ visible (Union.build calls).paging.terms) := by
  have entries : unionEntries calls =
      (calls.flatMap UnionCall.united).map fun part => (part.1, part.2.pieces) := by
    rw [unionEntries, List.map_flatMap]
    exact List.flatMap_congr fun call _ => call.partEntries_eq
  have parts : (Union.build calls).parts = unionParts (calls.flatMap UnionCall.united) := by
    rw [Union.build_eq]
  rw [layOut_eq_spaced, Union.terms, visible_append, parts, visible_unionParts, entries]

/-- The text of a union is the row of its parts and then the paging.  The row has the text
of the sentence of the parts that show, with one keyword between any two, exactly where
there is one part at most or every part shows; and it reads from left to right exactly
where every part shows. -/
theorem union_row_reads (calls : List UnionCall) :
    (Program.union calls).query = assemble (layOut (Union.build calls).terms) ∧
      layOut (Union.build calls).terms =
        spaced ((writtenParts (unionEntries calls)).map Part.pieces
          ++ visible (Union.build calls).paging.terms) ∧
      (textFrom 1 (spaced ((writtenParts (unionEntries calls)).map Part.pieces)) =
          textFrom 1 (spaced
            ((partsSentence ((unionEntries calls).filter partShows)).map Part.pieces)) ↔
        (unionEntries calls).length ≤ 1 ∨ ∀ part ∈ unionEntries calls, partShows part = true) ∧
      readUnion (writtenParts (unionEntries calls)) =
        if ∀ part ∈ unionEntries calls, partShows part = true then leftFold (unionEntries calls)
        else none :=
  ⟨compile_eq_assemble _, layOut_union calls, text_writtenParts_iff _, readUnion_writtenParts _⟩

/-- A union with nothing in it takes no place in the row, but the keyword that was chosen
behind it does. -/
theorem union_keyword_without_part :
    let calls : List UnionCall :=
      [.union false [], .select false [.columns [.literal (.int4 1)]]]
    (Program.union calls).query.sql = "union (select 1)" ∧
      textFrom 1 (spaced
        ((partsSentence ((unionEntries calls).filter partShows)).map Part.pieces)) =
          "(select 1)" := by
  decide +kernel

end BoundSql
