import BoundSql.Proofs.CompletedPredicates
import BoundSql.Proofs.Relocation

/-! # Sentences

A sentence is a row of parts with one blank between them: words, single entries,
lists, lists in parentheses, and conditions.  Here nothing is dropped, so a part
without text would leave a blank or a separator too many; a part is full when that
cannot happen, also not in the predicates of a condition.  Terms that are laid out as
full parts make the sentence of them. -/
set_option autoImplicit false
namespace BoundSql

open List (Forall₂)

def spaced (parts : List (List Piece)) : List Piece := [Piece.text " "].intercalate parts

def listed (entries : List (List Piece)) : List Piece := [Piece.text comma].intercalate entries

def bracketed (entries : List (List Piece)) : List Piece :=
  .text "(" :: listed entries ++ [.text ")"]

def named (inner : List Piece) (name : String) : List Piece :=
  bracketed [inner] ++ if name.isEmpty then [] else [.text " ", .text name]

inductive Part
  | word (s : String)
  | entry (pieces : List Piece)
  | listed (entries : List (List Piece))
  | bracketed (entries : List (List Piece))
  | condition (calls : List ConditionCall)

def Part.pieces : Part → List Piece
  | .word s => [.text s]
  | .entry pieces => pieces
  | .listed entries => BoundSql.listed entries
  | .bracketed entries => BoundSql.bracketed entries
  | .condition calls => layOut ((Condition.build calls).terms false)

def Part.IsFilled : Part → Prop
  | .word s => s ≠ ""
  | .entry pieces => shows pieces = true
  | .listed entries => entries ≠ [] ∧ ∀ e ∈ entries, shows e = true
  | .bracketed entries => entries ≠ [] ∧ ∀ e ∈ entries, shows e = true
  | .condition calls => shows (layOut ((Condition.build calls).terms false)) = true

/-- The pieces are those of the parts in a row, and nothing in it is empty. -/
structure IsRow (pieces : List Piece) (parts : List Part) : Prop where
  nonempty : parts ≠ []
  text : pieces = spaced (parts.map Part.pieces)
  filled : ∀ part ∈ parts, part.IsFilled

def operatorPart (s : String) : List Part := if s.isEmpty then [] else [.word s]

def operation (left : Term) (operator : String) (right : Part) : List Part :=
  .entry left.pieces :: operatorPart operator ++ [right]

def membership (left : Term) (operator : String) (values : List Term) : List Part :=
  if values.isEmpty then [.word (Text.boolText (operator != "in"))]
  else operation left operator (.bracketed (values.map Term.pieces))

def PredicateTail.sentence (left : Term) : PredicateTail → List Part
  | .compare operator (some right) => operation left operator.text (.entry right.term.pieces)
  | .member operator (some (.values ts)) => membership left operator.text (ts.map Term.arg)
  | .member operator (some (.raws ts)) => membership left operator.text (ts.map Term.raw)
  | .member operator (some (.field t)) => operation left operator.text (.entry t.raw.pieces)
  | .isNull => [.entry left.pieces, .word "is null"]
  | .isNotNull => [.entry left.pieces, .word "is not null"]
  | .unfinished | .compare _ none | .member _ none => []

def ConditionCall.sentence : ConditionCall → List Part
  | .compare left operator value => operation left operator.text (.entry value.arg.pieces)
  | .compareRaw left operator value => operation left operator.text (.entry value.raw.pieces)
  | .between left low high =>
    [.entry left.pieces, .word "between", .entry low.arg.pieces, .word "and",
      .entry high.arg.pieces]
  | .notBetween left low high =>
    [.entry left.pieces, .word "not between", .entry low.arg.pieces, .word "and",
      .entry high.arg.pieces]
  | .isIn left values => membership left "in" (values.map Term.arg)
  | .isInRaw left values => membership left "in" (values.map Term.raw)
  | .notIn left values => membership left "not in" (values.map Term.arg)
  | .notInRaw left values => membership left "not in" (values.map Term.raw)
  | .inSelect left select => operation left "in" (.bracketed [layOut (Select.build select).terms])
  | .isNull left => [.entry left.pieces, .word "is null"]
  | .isNotNull left => [.entry left.pieces, .word "is not null"]
  | .rawText sql => [.word sql]
  | .stepwise left tail => tail.sentence left.term
  | .stepwiseSelect left operator select =>
    operation left.term operator.text (.bracketed [layOut (Select.build select).terms])
  | .not _ | .chained _ _ | .mode _ => []

/-- A condition reads as what it means, and its predicates are rows of filled parts. -/
structure IsSpelt (calls : List ConditionCall) : Prop where
  reads : ∃ x, conditionFormula calls = some x ∧
    IsPhrase .disjunction (layOut ((Condition.build calls).terms false)) x
  predicates : ∀ call ∈ ConditionCall.leavesAll calls, ∀ p, call.predicate? = some p →
    IsRow p.term.pieces call.sentence

/-- Nothing in the part is empty, also inside a condition. -/
def Part.IsFull : Part → Prop
  | .condition calls => IsSpelt calls
  | part => part.IsFilled

theorem joinPieces_full (separator : String) {children : List (List Piece)}
    (all : ∀ c ∈ children, shows c = true) :
    joinPieces separator children = [Piece.text separator].intercalate children := by
  rw [joinPieces, List.filter_eq_self.mpr all]

theorem shows_listed {entries : List (List Piece)} (nonempty : entries ≠ [])
    (all : ∀ e ∈ entries, shows e = true) : shows (listed entries) = true := by
  cases entries with
  | nil => exact absurd rfl nonempty
  | cons first rest =>
    have head := all first List.mem_cons_self
    have whole : listed (first :: rest) = joinPieces comma (first :: rest) :=
      (joinPieces_full comma all).symm
    rw [whole, joinPieces_visible comma first rest head
      fun d member => all d (List.mem_cons_of_mem _ member), shows_append, head]
    rfl

theorem shows_bracketed (entries : List (List Piece)) : shows (bracketed entries) = true := by
  simp [bracketed, shows, Piece.shows]

theorem Part.IsFilled.shows {part : Part} (h : part.IsFilled) : shows part.pieces = true := by
  cases part with
  | word s => simpa [Part.pieces, BoundSql.shows, Piece.shows, Part.IsFilled] using h
  | entry pieces => exact h
  | listed entries => exact shows_listed h.1 h.2
  | bracketed entries => exact shows_bracketed entries
  | condition calls => exact h

theorem Part.IsFull.filled {part : Part} (h : part.IsFull) : part.IsFilled := by
  cases part with
  | condition calls =>
    obtain ⟨x, -, phrase⟩ := h.reads
    exact phrase.shows
  | _ => exact h

theorem Term.piecesEach_eq (ts : List Term) : Term.piecesEach ts = ts.map Term.pieces := by
  induction ts with
  | nil => rfl
  | cons t rest ih => rw [Term.piecesEach, ih, List.map_cons]

/-- A term that is laid out as a full part. -/
structure Shown (t : Term) (part : Part) : Prop where
  pieces : t.pieces = part.pieces
  full : part.IsFull

def visible (ts : List Term) : List (List Piece) := (Term.piecesEach ts).filter shows

theorem visible_append (front back : List Term) :
    visible (front ++ back) = visible front ++ visible back := by
  simp only [visible, Term.piecesEach_eq, List.map_append, List.filter_append]

theorem layOut_eq_spaced (ts : List Term) : layOut ts = spaced (visible ts) := rfl

theorem visible_shown {ts : List Term} {parts : List Part} (h : Forall₂ Shown ts parts) :
    visible ts = parts.map Part.pieces := by
  induction h with
  | nil => rfl
  | cons first _ ih =>
    have seen := first.full.filled.shows
    rw [← first.pieces] at seen
    rw [visible, Term.piecesEach, List.filter_cons_of_pos seen, List.map_cons, first.pieces, ← ih]
    rfl

theorem layOut_shown {ts : List Term} {parts : List Part} (h : Forall₂ Shown ts parts) :
    layOut ts = spaced (parts.map Part.pieces) := by
  rw [layOut_eq_spaced, visible_shown h]

theorem full_of_shown {ts : List Term} {parts : List Part} (h : Forall₂ Shown ts parts) :
    ∀ part ∈ parts, part.IsFull := forall_of_forall₂ h fun _ _ one => one.full

/-- A clause that is left out has no part. -/
theorem shown_unless {missing : Bool} {ts : List Term} {parts : List Part}
    (h : missing = false → Forall₂ Shown ts parts) :
    Forall₂ Shown (if missing then [] else ts) (if missing then [] else parts) := by
  cases missing with
  | true => exact .nil
  | false => exact h rfl

theorem Shown.word {s : String} (h : s ≠ "") : Shown (.word s) (.word s) := ⟨rfl, h⟩

theorem Shown.entry {t : Term} {pieces : List Piece} (known : t.pieces = pieces)
    (h : shows pieces = true) : Shown t (.entry pieces) := ⟨known, h⟩

theorem IsRow.of_shown {t : Term} {ts : List Term} {part : Part} {parts : List Part}
    (first : Shown t part) (rest : Forall₂ Shown ts parts) :
    IsRow (layOut (t :: ts)) (part :: parts) := by
  have row := Forall₂.cons first rest
  exact ⟨List.cons_ne_nil _ _, layOut_shown row,
    fun part member => (full_of_shown row part member).filled⟩

theorem Shown.listed {ts : List Term} {entries : List (List Piece)}
    (known : ts.map Term.pieces = entries) (nonempty : entries ≠ [])
    (all : ∀ e ∈ entries, shows e = true) : Shown (.commaList ts) (.listed entries) := by
  refine ⟨?_, nonempty, all⟩
  have children : (Term.commaList ts).pieces = joinPieces comma (Term.piecesEach ts) := rfl
  rw [children, Term.piecesEach_eq, known, joinPieces_full comma all]
  rfl

theorem Shown.bracketed {ts : List Term} {entries : List (List Piece)}
    (known : ts.map Term.pieces = entries) (nonempty : entries ≠ [])
    (all : ∀ e ∈ entries, shows e = true) : Shown (.parenList ts) (.bracketed entries) := by
  refine ⟨?_, nonempty, all⟩
  have children : (Term.parenList ts).pieces =
      enclosedPieces "" (joinPieces comma (Term.piecesEach ts)) := rfl
  have inner : joinPieces comma (Term.piecesEach ts) = BoundSql.listed entries := by
    rw [Term.piecesEach_eq, known, joinPieces_full comma all]
    rfl
  rw [children, inner, enclosedPieces, if_pos (shows_listed nonempty all), String.empty_append]
  rfl

theorem Shown.parenthesized {t : Term} (h : shows t.pieces = true) :
    Shown t.parenthesized (.bracketed [t.pieces]) :=
  .bracketed rfl (List.cons_ne_nil _ _) (List.forall_mem_singleton.mpr h)

theorem aliased_pieces (t : Term) (name : String) (h : shows t.pieces = true) :
    (aliased t name).pieces = named t.pieces name := by
  have inside : t.parenthesized.pieces = bracketed [t.pieces] := (Shown.parenthesized h).pieces
  have whole : (aliased t name).pieces = joinPieces " "
      (t.parenthesized.pieces :: Term.piecesEach (if name.isEmpty then [] else [.word name])) := rfl
  rw [whole, inside, named]
  by_cases anonymous : name.isEmpty = true
  · rw [if_pos anonymous, if_pos anonymous, List.append_nil]
    exact joinPieces_single " " _ (shows_bracketed _)
  · rw [if_neg anonymous, if_neg anonymous]
    have shown : ∀ d ∈ Term.piecesEach [Term.word name], shows d = true := by
      simpa [Term.piecesEach, Term.pieces, Term.word, Literal.render, shows, Piece.shows]
        using anonymous
    rw [joinPieces_visible " " _ _ (shows_bracketed _) shown]
    rfl

theorem trailing_append (separator : String) (first second : List (List Piece)) :
    trailing separator (first ++ second) =
      trailing separator first ++ trailing separator second := by
  simp [trailing]

/-- A list inside a list with the same separator may be written into it. -/
theorem joinPieces_nested (separator : String) (front inner back : List (List Piece)) :
    joinPieces separator (front ++ joinPieces separator inner :: back) =
      joinPieces separator (front ++ inner ++ back) := by
  induction inner with
  | nil =>
    have hidden : (front ++ [] :: back).filter shows = (front ++ back).filter shows := by
      simp [shows]
    rw [joinPieces_nil, List.append_nil, ← joinPieces_filter, hidden, joinPieces_filter]
  | cons child rest ih =>
    cases seen : shows child with
    | false =>
      have dropped : (front ++ child :: rest ++ back).filter shows =
          (front ++ rest ++ back).filter shows := by
        simp [seen]
      rw [joinPieces_cons_hidden separator child rest seen, ih,
        ← joinPieces_filter separator (front ++ child :: rest ++ back), dropped, joinPieces_filter]
    | true =>
      have whole := joinPieces_middle separator [] rest child seen
      have visible : shows (joinPieces separator (child :: rest)) = true := by
        rw [← List.nil_append (child :: rest), whole, shows_append, shows_append, seen]
        simp
      have split : front ++ child :: rest ++ back = front ++ child :: (rest ++ back) := by simp
      rw [joinPieces_middle separator front back _ visible, split,
        joinPieces_middle separator front (rest ++ back) child seen, trailing_append,
        ← List.nil_append (child :: rest), whole]
      simp [leading]

theorem layOut_nested (front : List Term) (rows : List (List Term)) (back : List Term) :
    layOut (front ++ rows.map Term.nested ++ back) = layOut (front ++ rows.flatten ++ back) := by
  induction rows generalizing front with
  | nil => rfl
  | cons row rest ih =>
    have later := ih (front ++ row)
    have here : layOut (front ++ .nested row :: (rest.map Term.nested ++ back)) =
        layOut (front ++ row ++ (rest.map Term.nested ++ back)) := by
      have inner : (Term.nested row).pieces = joinPieces " " (Term.piecesEach row) := rfl
      rw [layOut, layOut, Term.piecesEach_middle, inner, joinPieces_nested]
      simp only [Term.piecesEach_eq, List.map_append]
    simp only [List.map_cons, List.flatten_cons, List.append_assoc, List.cons_append]
      at here later ⊢
    rw [here, later]

end BoundSql
