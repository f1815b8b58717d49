import BoundSql.Proofs.ConditionPlaces
import BoundSql.Proofs.SelectSentences

/-! # Conditions of what renders

Where all that is given renders, every predicate shows, so a condition that is not
empty is a full part of its sentence. -/
set_option autoImplicit false
namespace BoundSql

open List (Forall₂)

theorem shows_joinPieces (separator : String) (front back : List (List Piece))
    {child : List Piece} (h : shows child = true) :
    shows (joinPieces separator (front ++ child :: back)) = true := by
  rw [shows_joinPieces_any, List.any_append, List.any_cons, h, Bool.true_or, Bool.or_true]

theorem Literal.renders_arg (l : Literal) : l.arg.renders = true := by
  cases l with
  | null => decide
  | _ => rfl

theorem Term.renders_arg {t : Term} (h : t.renders = true) : t.arg.renders = true := by
  rcases t.literal_or_arg_eq with ⟨l, rfl⟩ | fixed
  · exact l.renders_arg
  · rw [fixed]
    exact h

theorem Term.renders_raw {t : Term} (h : t.renders = true) : t.raw.renders = true := by
  cases t with
  | quantified q payload =>
    rw [raw, renders, pieces_quantified]
    cases q <;> rfl
  | _ => exact h

theorem Term.renders_args {ts : List Term} (h : ts.all Term.renders = true) :
    (ts.map Term.arg).all Term.renders = true := by
  simp only [List.all_map, List.all_eq_true] at h ⊢
  exact fun t member => renders_arg (h t member)

theorem Term.renders_raws {ts : List Term} (h : ts.all Term.renders = true) :
    (ts.map Term.raw).all Term.renders = true := by
  simp only [List.all_map, List.all_eq_true] at h ⊢
  exact fun t member => renders_raw (h t member)

theorem RightSide.renders_term {right : RightSide} (h : right.renders = true) :
    right.term.renders = true := by
  cases right with
  | value t => exact Term.renders_arg h
  | raw t | field t => exact Term.renders_raw h

theorem Operand.renders_term {operand : Operand} (h : operand.renders = true) :
    operand.term.renders = true := by
  cases operand with
  | field t => exact h
  | value t => exact Term.renders_arg h

theorem Select.shows_layOut (s : Select) : shows (layOut s.terms) = true := by
  rw [Select.terms]
  simp only [List.append_assoc]
  exact shows_joinPieces " " [] _ rfl

theorem IsRow.shows {pieces : List Piece} {parts : List Part} (h : IsRow pieces parts) :
    shows pieces = true := by
  obtain ⟨first, rest, rfl⟩ := List.exists_cons_of_ne_nil h.nonempty
  have all : ∀ c ∈ (first :: rest).map Part.pieces, BoundSql.shows c = true := by
    intro c member
    obtain ⟨part, inside, rfl⟩ := List.mem_map.mp member
    exact (h.filled part inside).shows
  rw [h.text, spaced, ← joinPieces_full " " all]
  exact shows_joinPieces " " [] _ (h.filled first List.mem_cons_self).shows

theorem layOut_wordless (t : Term) (rest : List Term) :
    layOut (t :: .word "" :: rest) = layOut (t :: rest) := by
  rw [layOut, layOut, ← joinPieces_filter, ← joinPieces_filter " " (Term.piecesEach (t :: rest))]
  rfl

section Rows
variable {left : Term}

theorem operation_row (h : left.renders = true) (operator : String) {right : Term} {part : Part}
    (shown : Shown right part) :
    IsRow (layOut [left, .word operator, right]) (operation left operator part) := by
  have first : Shown left (.entry left.pieces) := .entry rfl h
  rw [operation, operatorPart]
  by_cases wordless : operator.isEmpty = true
  · rw [if_pos wordless, String.isEmpty_iff.mp wordless, layOut_wordless]
    exact .of_shown first (.cons shown .nil)
  · rw [if_neg wordless]
    have word : operator ≠ "" := by simpa using wordless
    exact .of_shown first (.cons (.word word) (.cons shown .nil))

theorem membership_row (h : left.renders = true) (operator : String) {values : List Term}
    (all : values.all Term.renders = true) :
    ∀ p, memberPredicate? left operator values = some p →
      IsRow p.term.pieces (membership left operator values) := by
  intro p known
  have constant (b : Bool) : IsRow [.text (Text.boolText b)] [.word (Text.boolText b)] := by
    refine ⟨List.cons_ne_nil _ _, rfl, ?_⟩
    cases b <;> simp [Part.IsFilled, Text.boolText]
  rw [memberPredicate?] at known
  rw [membership]
  by_cases empty : values.isEmpty = true
  · rw [if_pos empty] at known ⊢
    by_cases isIn : operator = "in"
    · rw [if_pos isIn] at known
      cases known
      rw [isIn]
      exact constant false
    · rw [if_neg isIn] at known
      by_cases notIn : operator = "not in"
      · rw [if_pos notIn] at known
        cases known
        rw [notIn]
        exact constant true
      · rw [if_neg notIn] at known
        exact absurd known (by simp)
  · rw [if_neg empty] at known ⊢
    cases known
    have each : ∀ e ∈ values.map Term.pieces, shows e = true := by
      exact List.forall_mem_map.mpr (List.all_eq_true.mp all)
    exact operation_row h operator (.bracketed rfl (by simpa using empty) each)

theorem PredicateTail.row (h : left.renders = true) (tail : PredicateTail)
    (tailRenders : tail.renders = true) :
    ∀ p, tail.predicate? left = some p → IsRow p.term.pieces (tail.sentence left) := by
  intro p known
  have first : Shown left (.entry left.pieces) := .entry rfl h
  match tail with
  | .unfinished | .compare _ none | .member _ none => exact absurd known (by simp [predicate?])
  | .isNull | .isNotNull =>
    cases known
    exact .of_shown first (.cons (.word (by decide)) .nil)
  | .compare operator (some right) =>
    cases known
    exact operation_row h operator.text (.entry rfl (RightSide.renders_term tailRenders))
  | .member operator (some (.field t)) =>
    cases known
    exact operation_row h operator.text (.entry rfl (Term.renders_raw tailRenders))
  | .member operator (some (.values ts)) =>
    exact membership_row h operator.text (Term.renders_args tailRenders) p known
  | .member operator (some (.raws ts)) =>
    exact membership_row h operator.text (Term.renders_raws tailRenders) p known

theorem between_row (h : left.renders = true) {word : String} (named : word ≠ "")
    {low high : Term} (lowest : low.renders = true) (highest : high.renders = true) :
    IsRow (layOut [left, .word word, low.arg, .word "and", high.arg])
      [.entry left.pieces, .word word, .entry low.arg.pieces, .word "and",
        .entry high.arg.pieces] := by
  have behind : Forall₂ Shown [Term.word "and", high.arg] [.word "and", .entry high.arg.pieces] :=
    .cons (.word (by decide)) (.cons (.entry rfl (Term.renders_arg highest)) .nil)
  exact .of_shown (.entry rfl h)
    (.cons (.word named) (.cons (.entry rfl (Term.renders_arg lowest)) behind))

end Rows

theorem ConditionCall.row {call : ConditionCall} (h : call.renders = true) :
    ∀ p, call.predicate? = some p → IsRow p.term.pieces call.sentence := by
  intro p known
  cases call with
  | compare left operator value =>
    simp only [renders, Bool.and_eq_true] at h
    cases known
    exact operation_row h.1 operator.text (.entry rfl (Term.renders_arg h.2))
  | compareRaw left operator value =>
    simp only [renders, Bool.and_eq_true] at h
    cases known
    exact operation_row h.1 operator.text (.entry rfl (Term.renders_raw h.2))
  | between left low high | notBetween left low high =>
    simp only [renders, Bool.and_eq_true] at h
    cases known
    exact between_row h.1.1 (by decide) h.1.2 h.2
  | isIn left ts | notIn left ts =>
    simp only [renders, Bool.and_eq_true] at h
    exact membership_row h.1 _ (Term.renders_args h.2) p known
  | isInRaw left ts | notInRaw left ts =>
    simp only [renders, Bool.and_eq_true] at h
    exact membership_row h.1 _ (Term.renders_raws h.2) p known
  | inSelect left select =>
    simp only [renders, Bool.and_eq_true] at h
    cases known
    exact operation_row h.1 "in" (.parenthesized (Select.build select).shows_layOut)
  | isNull left | isNotNull left =>
    cases known
    exact .of_shown (.entry rfl h) (.cons (.word (by decide)) .nil)
  | rawText sql =>
    cases known
    have word : sql ≠ "" := by simpa [renders] using h
    exact ⟨List.cons_ne_nil _ _, rfl, by simpa [sentence, Part.IsFilled] using word⟩
  | stepwise left tail =>
    simp only [renders, Bool.and_eq_true] at h
    exact tail.row (Operand.renders_term h.1) h.2 p known
  | stepwiseSelect left operator select =>
    simp only [renders, Bool.and_eq_true] at h
    cases known
    exact operation_row (Operand.renders_term h.1) operator.text
      (.parenthesized (Select.build select).shows_layOut)
  | not inner | chained connective inner | mode connective =>
    exact absurd known (by simp [predicate?])

mutual

theorem ConditionCall.leaves_render (call : ConditionCall) (h : call.renders = true) :
    ∀ leaf ∈ call.leaves, leaf.renders = true := by
  cases call with
  | not inner => exact ConditionCall.leavesAll_render inner h
  | chained connective inner => exact ConditionCall.leavesAll_render inner h
  | _ =>
    intro leaf member
    rw [List.mem_singleton.mp member]
    exact h

theorem ConditionCall.leavesAll_render (calls : List ConditionCall)
    (h : ConditionCall.rendersAll calls = true) :
    ∀ leaf ∈ ConditionCall.leavesAll calls, leaf.renders = true := by
  cases calls with
  | nil => exact fun leaf member => absurd member List.not_mem_nil
  | cons call rest =>
    rw [ConditionCall.rendersAll, Bool.and_eq_true] at h
    intro leaf member
    rcases List.mem_append.mp member with here | later
    · exact ConditionCall.leaves_render call h.1 leaf here
    · exact ConditionCall.leavesAll_render rest h.2 leaf later

end

def Formula.Shows (x : Formula) : Prop := ∀ t ∈ x.atoms, shows t.pieces = true

theorem Predicate.formula_shows {p : Predicate} (h : shows p.term.pieces = true) :
    p.formula.Shows := by
  intro t member
  cases p with
  | atom u =>
    rw [List.mem_singleton.mp member]
    exact h
  | constant b => exact absurd member (by simp [formula, Formula.atoms])

theorem shows_outline {mode : Connective} {entries : List Formula}
    {links : List (Connective × Formula)} {x : Formula} (h : outline mode entries links = some x)
    (own : ∀ y ∈ entries, y.Shows) (linked : ∀ k ∈ links, k.2.Shows) : x.Shows := by
  intro t member
  rw [atoms_outline h] at member
  rcases List.mem_append.mp member with inside | behind
  · obtain ⟨y, entry, atom⟩ := List.mem_flatMap.mp inside
    exact own y entry t atom
  · obtain ⟨k, link, atom⟩ := List.mem_flatMap.mp behind
    exact linked k link t atom

mutual

theorem ConditionCall.entryFormula?_shows (call : ConditionCall) (h : call.renders = true) :
    ∀ y, call.entryFormula? = some y → y.Shows := by
  intro y known
  cases call with
  | not inner =>
    obtain ⟨x, meaning, rfl⟩ := Option.map_eq_some_iff.mp known
    have denied : x.Shows := shows_outline meaning (ConditionCall.entries_show inner h)
      (ConditionCall.links_show inner h)
    exact denied
  | _ =>
    simp only [ConditionCall.entryFormula?, Option.map_eq_some_iff] at known
    obtain ⟨p, one, rfl⟩ := known
    exact Predicate.formula_shows (ConditionCall.row h p one).shows

theorem ConditionCall.linkFormula?_shows (call : ConditionCall) (h : call.renders = true) :
    ∀ k, call.linkFormula? = some k → k.2.Shows := by
  intro k known
  cases call with
  | chained connective inner =>
    obtain ⟨x, meaning, rfl⟩ := Option.map_eq_some_iff.mp known
    exact shows_outline meaning (ConditionCall.entries_show inner h)
      (ConditionCall.links_show inner h)
  | _ => exact absurd known (by simp [ConditionCall.linkFormula?])

theorem ConditionCall.entries_show (calls : List ConditionCall)
    (h : ConditionCall.rendersAll calls = true) :
    ∀ y ∈ ConditionCall.entries calls, y.Shows := by
  cases calls with
  | nil => simp [ConditionCall.entries]
  | cons call rest =>
    rw [ConditionCall.rendersAll, Bool.and_eq_true] at h
    intro y member
    rw [ConditionCall.entries] at member
    rcases List.mem_append.mp member with here | later
    · exact ConditionCall.entryFormula?_shows call h.1 y (Option.mem_toList.mp here)
    · exact ConditionCall.entries_show rest h.2 y later

theorem ConditionCall.links_show (calls : List ConditionCall)
    (h : ConditionCall.rendersAll calls = true) :
    ∀ k ∈ ConditionCall.links calls, k.2.Shows := by
  cases calls with
  | nil => simp [ConditionCall.links]
  | cons call rest =>
    rw [ConditionCall.rendersAll, Bool.and_eq_true] at h
    intro k member
    rw [ConditionCall.links] at member
    rcases List.mem_append.mp member with here | later
    · exact ConditionCall.linkFormula?_shows call h.1 k (Option.mem_toList.mp here)
    · exact ConditionCall.links_show rest h.2 k later

end

/-- A condition in which something is completed reads as what it means. -/
theorem Condition.isFull {calls : List ConditionCall} (h : ConditionCall.rendersAll calls = true)
    (busy : completed calls ≠ []) : (Part.condition calls).IsFull := by
  have spells : (Condition.build calls).Spells (ConditionCall.entries calls)
      (ConditionCall.links calls) := ConditionCall.applyAll_spells calls .empty
  have mode : (Condition.build calls).mode = lastMode calls := ConditionCall.applyAll_mode calls {}
  have empty := spells.isEmpty
  cases meaning : conditionFormula calls with
  | none =>
    rw [conditionFormula] at meaning
    rw [mode, meaning] at empty
    exact absurd ((Condition.isEmpty_build_iff_completed calls).mp empty) busy
  | some x =>
    have outlined : outline (Condition.build calls).mode (ConditionCall.entries calls)
        (ConditionCall.links calls) = .some x := by
      rw [mode]
      exact meaning
    have visible := shows_outline outlined (ConditionCall.entries_show calls h)
      (ConditionCall.links_show calls h)
    have rows := ConditionCall.leavesAll_render calls h
    exact ⟨⟨x, meaning, spells.terms outlined visible false⟩,
      fun call member => ConditionCall.row (rows call member)⟩

theorem shown_conditionPart {keyword : String} (word : keyword ≠ "") {calls : List ConditionCall}
    (h : ConditionCall.rendersAll calls = true) :
    Forall₂ Shown (conditionClause keyword (Condition.build calls))
      (conditionPart keyword calls) := by
  rw [conditionClause_build, filterClause, conditionPart]
  refine shown_unless fun busy => ?_
  have reads := Condition.isFull h (List.isEmpty_eq_false_iff.mp busy)
  exact .cons (.word word) (.cons ⟨rfl, reads⟩ .nil)

end BoundSql
