import BoundSql.Proofs.CompletedPredicates
import BoundSql.Proofs.Phrases

/-! # Predicates in the text of a condition

The text of a condition is the texts of the predicates that are completed in it,
each of them once, with nothing between them but parentheses, connectives and
blanks.  No predicate is asked to show: one that does not leaves no trace, and
neither does the separator beside it. -/
set_option autoImplicit false
namespace BoundSql

/-- What may stand between the predicates of a condition. -/
def glue : List String := ["(", ")", " ", "not", "and", "or", " and ", " or "]

/-- The pieces of predicates in their order, with glue between them. -/
inductive Woven : List Predicate → List Piece → Prop
  | nil : Woven [] []
  | glue {ps : List Predicate} {rest : List Piece} {s : String} (h : s ∈ glue)
    (later : Woven ps rest) : Woven ps (.text s :: rest)
  | predicate {ps : List Predicate} {rest : List Piece} (p : Predicate) (later : Woven ps rest) :
    Woven (p :: ps) (p.term.pieces ++ rest)

theorem Woven.append {ps qs : List Predicate} {first second : List Piece} (h : Woven ps first)
    (k : Woven qs second) : Woven (ps ++ qs) (first ++ second) := by
  induction h with
  | nil => exact k
  | glue member _ ih => exact .glue member ih
  | predicate p _ ih =>
    rw [List.append_assoc]
    exact .predicate p ih

/-- A text that cannot be told from one that is woven of the predicates, in some order. -/
def IsWoven (ps : List Predicate) (pieces : List Piece) : Prop :=
  ∃ ordered woven, ordered.Perm ps ∧ Woven ordered woven ∧ SameText woven pieces

section Weaving
variable {ps qs : List Predicate} {first second : List Piece}

theorem IsWoven.nil : IsWoven [] [] := ⟨[], [], .nil, .nil, .refl []⟩

theorem IsWoven.perm (h : IsWoven ps first) (moved : ps.Perm qs) : IsWoven qs first := by
  obtain ⟨ordered, woven, order, text, shown⟩ := h
  exact ⟨ordered, woven, order.trans moved, text, shown⟩

theorem IsWoven.word {s : String} (h : s ∈ glue) : IsWoven [] [.text s] :=
  ⟨[], [.text s], .nil, .glue h .nil, .refl _⟩

theorem IsWoven.predicate (p : Predicate) : IsWoven [p] p.term.pieces := by
  have alone := Woven.predicate p .nil
  rw [List.append_nil] at alone
  exact ⟨[p], p.term.pieces, .refl _, alone, .refl _⟩

theorem IsWoven.append (h : IsWoven ps first) (k : IsWoven qs second) :
    IsWoven (ps ++ qs) (first ++ second) := by
  obtain ⟨ordered, woven, order, text, shown⟩ := h
  obtain ⟨others, more, otherOrder, otherText, otherShown⟩ := k
  exact ⟨ordered ++ others, woven ++ more, order.append otherOrder, text.append otherText,
    shown.append otherShown⟩

theorem SameText.of_hidden (h : BoundSql.shows first = false) : SameText first [] := by
  refine ⟨?_, slotValues_of_not_shows first h⟩
  intro n
  rw [textFrom_nil]
  exact (textFrom_eq_empty_iff n first).mpr h

theorem IsWoven.hidden (h : IsWoven ps first) (unseen : shows first = false) : IsWoven ps [] := by
  obtain ⟨ordered, woven, order, text, shown⟩ := h
  exact ⟨ordered, woven, order, text, shown.trans (.of_hidden unseen)⟩

theorem IsWoven.enclosed (h : IsWoven ps first) : IsWoven ps (enclosedPieces "" first) := by
  rw [enclosedPieces]
  cases seen : shows first with
  | false => exact h.hidden seen
  | true =>
    have opened := (IsWoven.word (show "(" ∈ glue by decide)).append h
    have closed := opened.append (IsWoven.word (show ")" ∈ glue by decide))
    rw [List.append_nil] at closed
    exact closed

end Weaving

/-- Children that are woven of shares of the predicates. -/
inductive WovenEach : List Predicate → List (List Piece) → Prop
  | nil : WovenEach [] []
  | cons {ps qs : List Predicate} {first : List Piece} {children : List (List Piece)}
    (h : IsWoven ps first) (later : WovenEach qs children) :
    WovenEach (ps ++ qs) (first :: children)

section Lists
variable {ps qs : List Predicate} {children others : List (List Piece)}

theorem WovenEach.single {first : List Piece} (h : IsWoven ps first) : WovenEach ps [first] := by
  have one := WovenEach.cons h .nil
  rw [List.append_nil] at one
  exact one

theorem WovenEach.append (h : WovenEach ps children) (k : WovenEach qs others) :
    WovenEach (ps ++ qs) (children ++ others) := by
  induction h with
  | nil => exact k
  | cons first _ ih =>
    rw [List.append_assoc]
    exact .cons first ih

theorem WovenEach.join {separator : String} (h : WovenEach ps children)
    (known : separator ∈ glue) : IsWoven ps (joinPieces separator children) := by
  induction h with
  | nil => exact .nil
  | @cons ps qs first rest one _ ih =>
    cases seen : shows first with
    | false =>
      rw [joinPieces_cons_hidden separator first rest seen]
      exact (one.hidden seen).append ih
    | true =>
      by_cases last : rest.filter shows = []
      · have nothing : joinPieces separator rest = [] := by simp [joinPieces, last]
        have both := one.append ih
        rw [nothing, List.append_nil] at both
        rw [joinPieces_cons_last separator first rest seen last]
        exact both
      · rw [joinPieces_cons_more separator first rest seen last]
        exact one.append ((IsWoven.word known).append ih)

theorem WovenEach.paren {separator : String} {items : List Term}
    (h : WovenEach ps (Term.piecesEach items)) (known : separator ∈ glue) :
    IsWoven ps (Term.paren "" separator items).pieces := by
  rw [Term.pieces]
  exact (h.join known).enclosed

end Lists

section Conditions
variable {ps qs : List Predicate}

theorem Connective.text_mem_glue (c : Connective) : c.text ∈ glue := by
  cases c <;> decide

theorem Connective.separator_mem_glue (c : Connective) : c.separator ∈ glue := by
  cases c <;> decide

theorem WovenEach.chainTerms {chain : List (Connective × List Term)}
    (h : WovenEach ps (chain.map fun l => layOut l.2)) :
    WovenEach ps (Term.piecesEach (BoundSql.chainTerms chain)) := by
  induction chain generalizing ps with
  | nil => exact h
  | cons l rest ih =>
    cases h with
    | cons first later =>
      have word : IsWoven [] [.text l.1.text] := .word l.1.text_mem_glue
      have link := WovenEach.cons word (.cons first (ih later))
      exact link

theorem IsWoven.wrapped {terms : List Term} (h : IsWoven ps (layOut terms)) (wrap : Bool) :
    IsWoven ps (layOut (BoundSql.wrapped wrap terms)) := by
  cases wrap with
  | false => exact h
  | true =>
    have outer : IsWoven ps (Term.paren "" " " terms).pieces := by
      rw [Term.pieces]
      exact h.enclosed
    exact (WovenEach.single outer).join (by decide)

theorem Condition.terms_woven {c : Condition} (h : WovenEach ps (Term.piecesEach c.predicates))
    (k : WovenEach qs (c.chain.map fun l => layOut l.2)) (nested : Bool) :
    IsWoven (ps ++ qs) (layOut (c.terms nested)) := by
  obtain ⟨predicates, mode, chain⟩ := c
  have blank : " " ∈ glue := by decide
  cases predicates with
  | cons p rest =>
    have clause := h.paren mode.separator_mem_glue
    exact ((WovenEach.cons clause k.chainTerms).join blank).wrapped _
  | nil =>
    cases h
    match chain with
    | [] =>
      cases k
      exact .nil
    | [(_, inner)] =>
      cases k with
      | cons one nothing =>
        cases nothing
        rw [List.append_nil]
        exact one
    | (_, inner) :: second :: rest =>
      cases k with
      | cons one later =>
        have row : WovenEach _ (Term.piecesEach (.nested inner :: BoundSql.chainTerms _)) :=
          .cons one later.chainTerms
        exact (row.join blank).wrapped nested

end Conditions

theorem WovenEach.ofOption (p : Option Predicate) :
    WovenEach p.toList (Term.piecesEach (p.map Predicate.term).toList) := by
  cases p with
  | none => exact .nil
  | some p => exact .single (.predicate p)

mutual

theorem ConditionCall.entry_woven (call : ConditionCall) :
    WovenEach call.own (Term.piecesEach call.entry) := by
  cases call with
  | not inner =>
    rw [ConditionCall.entry, ConditionCall.own]
    split
    · next empty =>
      rw [(Condition.isEmpty_build_iff_completed inner).mp empty]
      exact .nil
    · have text := Condition.build_woven inner true
      have word : IsWoven [] [.text "not"] := .word (by decide)
      have row : WovenEach (completed inner)
          (Term.piecesEach [.word "not", .nested ((Condition.build inner).terms true)]) :=
        .cons word (.single text)
      exact .single (row.paren (by decide))
  | _ =>
    rw [ConditionCall.entry, ConditionCall.own]
    · exact .ofOption _
    all_goals simp

theorem ConditionCall.link_woven (call : ConditionCall) :
    WovenEach call.linked (call.link.map fun l => layOut l.2) := by
  cases call with
  | chained connective inner =>
    rw [ConditionCall.link, ConditionCall.linked]
    split
    · next empty =>
      rw [(Condition.isEmpty_build_iff_completed inner).mp empty]
      exact .nil
    · exact .single (Condition.build_woven inner true)
  | _ => exact .nil

theorem ConditionCall.entries_woven (calls : List ConditionCall) :
    WovenEach (calls.flatMap ConditionCall.own)
      (Term.piecesEach (calls.flatMap ConditionCall.entry)) := by
  cases calls with
  | nil => exact .nil
  | cons call rest =>
    rw [List.flatMap_cons, List.flatMap_cons, Term.piecesEach_append]
    exact call.entry_woven.append (ConditionCall.entries_woven rest)

theorem ConditionCall.links_woven (calls : List ConditionCall) :
    WovenEach (calls.flatMap ConditionCall.linked)
      ((calls.flatMap ConditionCall.link).map fun l => layOut l.2) := by
  cases calls with
  | nil => exact .nil
  | cons call rest =>
    rw [List.flatMap_cons, List.flatMap_cons, List.map_append]
    exact call.link_woven.append (ConditionCall.links_woven rest)

/-- Each completed predicate stands in the text once. -/
theorem Condition.build_woven (calls : List ConditionCall) (nested : Bool) :
    IsWoven (completed calls) (layOut ((Condition.build calls).terms nested)) := by
  have entries := ConditionCall.entries_woven calls
  have links := ConditionCall.links_woven calls
  rw [Condition.build_eq]
  exact (Condition.terms_woven entries links nested).perm (completed_perm calls)

end

end BoundSql
