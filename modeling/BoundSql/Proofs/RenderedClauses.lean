import BoundSql.Proofs.ClauseValues
import BoundSql.Proofs.RenderedConditions

/-! # Clauses of what renders

Each clause of a statement is laid out as the parts that its sentence has for it,
where what is given renders. -/
set_option autoImplicit false
namespace BoundSql

open List (Forall₂)

/-- A row renders where each of its calls does, of whatever kind the calls are. -/
theorem rendersAll_iff {C : Type} {renders : C → Bool} {rendersAll : List C → Bool}
    (nil : rendersAll [] = true)
    (cons : ∀ call rest, rendersAll (call :: rest) = (renders call && rendersAll rest))
    (calls : List C) : rendersAll calls = true ↔ ∀ call ∈ calls, renders call = true := by
  induction calls with
  | nil => simp [nil]
  | cons call rest ih => rw [cons, Bool.and_eq_true, ih, List.forall_mem_cons]

theorem rendersAll_conditions {C : Type} {calls : List C} {conditions : C → List ConditionCall}
    (each : ∀ call ∈ calls, ConditionCall.rendersAll (conditions call) = true) :
    ConditionCall.rendersAll (calls.flatMap conditions) = true := by
  have all (row : List ConditionCall) :
      ConditionCall.rendersAll row = true ↔ ∀ call ∈ row, call.renders = true :=
    rendersAll_iff rfl (fun _ _ => rfl) row
  simp only [all] at each ⊢
  intro one member
  obtain ⟨call, inside, here⟩ := List.mem_flatMap.mp member
  exact each call inside one here

/-- Terms that are laid out as entries, each of which shows. -/
structure Entries (ts : List Term) (entries : List (List Piece)) : Prop where
  pieces : ts.map Term.pieces = entries
  all : ∀ e ∈ entries, shows e = true

theorem Entries.nil : Entries [] [] := ⟨rfl, by simp⟩

theorem Entries.ofAll {ts : List Term} (h : ts.all Term.renders = true) :
    Entries ts (ts.map Term.pieces) := by
  refine ⟨rfl, ?_⟩
  intro e member
  obtain ⟨t, inside, rfl⟩ := List.mem_map.mp member
  exact List.all_eq_true.mp h t inside

theorem Entries.single {t : Term} {entry : List Piece} (h : Shown t (.entry entry)) :
    Entries [t] [entry] :=
  ⟨congrArg (fun e => [e]) h.pieces, List.forall_mem_singleton.mpr h.full⟩

theorem Entries.flatMap {C : Type} {calls : List C} {items : C → List Term}
    {entries : C → List (List Piece)} (each : ∀ call ∈ calls, Entries (items call) (entries call)) :
    Entries (calls.flatMap items) (calls.flatMap entries) := by
  refine ⟨?_, ?_⟩
  · rw [List.map_flatMap]
    exact List.flatMap_congr fun call member => (each call member).pieces
  · intro e member
    obtain ⟨call, inside, here⟩ := List.mem_flatMap.mp member
    exact (each call inside).all e here

section Clauses
variable {ts : List Term} {entries : List (List Piece)}

theorem Entries.isEmpty (h : Entries ts entries) : ts.isEmpty = entries.isEmpty := by
  rw [← h.pieces]
  simp

theorem Entries.listed (h : Entries ts entries) (nonempty : entries.isEmpty = false) :
    Shown (.commaList ts) (.listed entries) :=
  .listed h.pieces (List.isEmpty_eq_false_iff.mp nonempty) h.all

theorem Entries.list (h : Entries ts entries) :
    Forall₂ Shown (if ts.isEmpty then [] else [.commaList ts])
      (if entries.isEmpty then [] else [.listed entries]) := by
  rw [h.isEmpty]
  exact shown_unless fun nonempty => .cons (h.listed nonempty) .nil

theorem Entries.listPart {keyword : String} (word : keyword ≠ "") (h : Entries ts entries) :
    Forall₂ Shown (listClause keyword ts) (listPart keyword entries) := by
  rw [listClause, BoundSql.listPart, h.isEmpty]
  exact shown_unless fun nonempty => .cons (.word word) (.cons (h.listed nonempty) .nil)

theorem Entries.bracketedPart {keyword : String} (word : keyword ≠ "") (h : Entries ts entries) :
    Forall₂ Shown (parenClause keyword ts) (bracketedPart keyword entries) := by
  rw [parenClause, BoundSql.bracketedPart, h.isEmpty]
  refine shown_unless fun nonempty => .cons (.word word) (.cons ?_ .nil)
  exact .bracketed h.pieces (List.isEmpty_eq_false_iff.mp nonempty) h.all

end Clauses

theorem int8Text_ne_empty (n : Int64) : int8Text n ≠ "" := by
  rw [int8Text]
  cases n.toInt with
  | ofNat m => simp [Int.repr]
  | negSucc m => simp [Int.repr]

theorem shown_numberPart {keyword : String} (word : keyword ≠ "") (numbers : List Int64) :
    Forall₂ Shown (numberClause keyword numbers.getLast?) (numberPart keyword numbers) := by
  unfold numberPart
  cases numbers.getLast? with
  | none => exact .nil
  | some n =>
    exact .cons (.word word) (.cons ⟨rfl, int8Text_ne_empty n⟩ .nil)

theorem OrderItem.words_shown (words : List OrderWord) (item : OrderItem)
    (h : ∀ s ∈ item.direction.toList ++ item.nulls.toList, s ≠ "") :
    ∀ s ∈ (words.foldl OrderItem.say item).direction.toList ++
      (words.foldl OrderItem.say item).nulls.toList, s ≠ "" := by
  induction words generalizing item with
  | nil => exact h
  | cons word rest ih =>
    refine ih (item.say word) ?_
    simp only [List.forall_mem_append] at h ⊢
    cases word with
    | asc | desc => exact ⟨by simp [OrderItem.say], h.2⟩
    | nullsFirst | nullsLast => exact ⟨h.1, by simp [OrderItem.say]⟩

theorem order_entries {column : Term} (h : column.renders = true) (words : List OrderWord) :
    Entries [(OrderItem.of column words).toTerm] [orderEntry column words] := by
  have kept : (OrderItem.of column words).column = column :=
    OrderItem.column_foldl_say words { column }
  have said := OrderItem.words_shown words { column } (by simp)
  have all : ∀ e ∈ column.pieces :: ((OrderItem.of column words).direction.toList ++
      (OrderItem.of column words).nulls.toList).map fun s => [Piece.text s], shows e = true := by
    intro e member
    rcases List.mem_cons.mp member with first | later
    · rw [first]
      exact h
    · obtain ⟨s, inside, rfl⟩ := List.mem_map.mp later
      have word : s ≠ "" := said s inside
      simpa [shows, Piece.shows] using word
  have whole : (OrderItem.of column words).toTerm.pieces = orderEntry column words := by
    have children : (OrderItem.of column words).toTerm.pieces =
        joinPieces " " ((OrderItem.of column words).column.pieces ::
          Term.piecesEach (((OrderItem.of column words).direction.toList ++
            (OrderItem.of column words).nulls.toList).map .word)) := rfl
    rw [children, kept, Term.piecesEach_eq, List.map_map]
    exact joinPieces_full " " all
  refine .single (.entry whole ?_)
  rw [← whole]
  exact shows_joinPieces " " [] _ (by rw [kept]; exact h)

theorem shown_paging {items : List OrderItem} {entries : List (List Piece)}
    (order : Entries (items.map OrderItem.toTerm) entries) (limits offsets : List Int64) :
    Forall₂ Shown (Paging.extended {} items limits offsets).terms
      (listPart "order by" entries ++ numberPart "limit" limits ++
        numberPart "offset" offsets) := by
  have limit : limits.getLast?.or none = limits.getLast? := Option.or_none
  have offset : offsets.getLast?.or none = offsets.getLast? := Option.or_none
  rw [Paging.terms, Paging.extended, List.nil_append, limit, offset]
  have first : Forall₂ Shown (listClause "order by" (items.map OrderItem.toTerm))
      (listPart "order by" entries) := order.listPart (by decide)
  have second : Forall₂ Shown (numberClause "limit" limits.getLast?) (numberPart "limit" limits) :=
    shown_numberPart (by decide) limits
  exact List.rel_append (List.rel_append first second) (shown_numberPart (by decide) offsets)

end BoundSql
