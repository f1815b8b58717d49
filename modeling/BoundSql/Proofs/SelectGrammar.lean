import BoundSql.Proofs.RenderedClauses

/-! # Selects follow their grammar

A select, and every select and union inside it, is the sentence of its calls, if what
is given renders.  The builders decide by counts whether a clause is there, and the
layout drops what has no text; they agree because every clause that is there shows,
and so does every statement inside. -/
set_option autoImplicit false
namespace BoundSql

open List (Forall₂)

theorem shown_flatMap {C : Type} {calls : List C} {items : C → List Term} {parts : C → List Part}
    (each : ∀ call ∈ calls, Forall₂ Shown (items call) (parts call)) :
    Forall₂ Shown (calls.flatMap items) (calls.flatMap parts) := by
  induction calls with
  | nil => exact .nil
  | cons call rest ih =>
    have later := ih fun other member => each other (List.mem_cons_of_mem _ member)
    exact List.rel_append (each call List.mem_cons_self) later

theorem UnionCall.partEntries_eq (call : UnionCall) :
    call.partEntries = call.united.map fun part => (part.1, part.2.pieces) := by
  cases call <;> rfl

theorem shown_parts {parts : List (Bool × Term)} (h : ∀ part ∈ parts, part.2.renders = true) :
    Forall₂ Shown (unionParts parts)
      (partsSentence (parts.map fun part => (part.1, part.2.pieces))) := by
  cases parts with
  | nil => exact .nil
  | cons first rest =>
    rw [List.forall_mem_cons] at h
    have behind : ∀ part ∈ rest, Forall₂ Shown (behindPart part)
        [.word (unionKeyword part.1), .bracketed [part.2.pieces]] := by
      intro part member
      have word : unionKeyword part.1 ≠ "" := by cases part.1 <;> decide
      exact .cons (.word word) (.cons (.parenthesized (h.2 part member)) .nil)
    rw [List.map_cons, unionParts, partsSentence, List.flatMap_map]
    exact .cons (.parenthesized h.1) (shown_flatMap behind)

theorem Union.shows_layOut {calls : List UnionCall} (united : calls.any UnionCall.isPart = true)
    (each : ∀ part ∈ calls.flatMap UnionCall.united, part.2.renders = true) :
    shows (layOut (Union.build calls).terms) = true := by
  rw [build_eq, terms]
  cases parts : calls.flatMap UnionCall.united with
  | nil =>
    obtain ⟨call, member, isPart⟩ := List.any_eq_true.mp united
    have noPart : call.united = [] := List.flatMap_eq_nil_iff.mp parts call member
    cases call <;> simp [UnionCall.united, UnionCall.isPart] at noPart isPart
  | cons first rest =>
    rw [parts, List.forall_mem_cons] at each
    have seen := (Shown.parenthesized each.1).full.filled.shows
    rw [← (Shown.parenthesized each.1).pieces] at seen
    exact shows_joinPieces " " [] _ seen

mutual

theorem UnionCall.united_render (call : UnionCall) (h : call.renders = true) :
    ∀ part ∈ call.united, part.2.renders = true := by
  cases call with
  | select keepAll calls => exact List.forall_mem_singleton.mpr (Select.build calls).shows_layOut
  | union keepAll calls =>
    rw [UnionCall.renders, Bool.and_eq_true] at h
    have inner := Union.shows_layOut h.1 (UnionCall.unitedAll_render calls h.2)
    exact List.forall_mem_singleton.mpr inner
  | _ => exact fun part member => absurd member List.not_mem_nil

theorem UnionCall.unitedAll_render (calls : List UnionCall)
    (h : UnionCall.rendersAll calls = true) :
    ∀ part ∈ calls.flatMap UnionCall.united, part.2.renders = true := by
  cases calls with
  | nil => exact fun part member => absurd member List.not_mem_nil
  | cons call rest =>
    rw [UnionCall.rendersAll, Bool.and_eq_true] at h
    rw [List.flatMap_cons, List.forall_mem_append]
    exact ⟨UnionCall.united_render call h.1, UnionCall.unitedAll_render rest h.2⟩

end

theorem UnionCall.order_entries {call : UnionCall} (h : call.renders = true) :
    Entries (call.orderItems.map OrderItem.toTerm) call.orderEntries := by
  cases call with
  | orderBy column words => exact BoundSql.order_entries h words
  | _ => exact .nil

theorem Union.shown {calls : List UnionCall} (h : UnionCall.rendersAll calls = true) :
    Forall₂ Shown (Union.build calls).terms (unionSentence calls) := by
  have parts := shown_parts (UnionCall.unitedAll_render calls h)
  have entries : (calls.flatMap UnionCall.united).map (fun part => (part.1, part.2.pieces)) =
      calls.flatMap UnionCall.partEntries := by
    rw [List.map_flatMap]
    exact List.flatMap_congr fun call _ => call.partEntries_eq.symm
  have each : ∀ call ∈ calls, call.renders = true :=
    (rendersAll_iff rfl (fun _ _ => rfl) calls).mp h
  have order : Entries ((calls.flatMap UnionCall.orderItems).map OrderItem.toTerm)
      (calls.flatMap UnionCall.orderEntries) := by
    rw [List.map_flatMap]
    exact .flatMap fun call member => UnionCall.order_entries (each call member)
  rw [entries] at parts
  have paging := shown_paging order (calls.flatMap UnionCall.limits)
    (calls.flatMap UnionCall.offsets)
  rw [build_eq, terms, unionSentence, List.append_assoc, List.append_assoc]
  rw [List.append_assoc] at paging
  exact List.rel_append parts paging

theorem shown_aliased {t : Term} (h : t.renders = true) (name : String) :
    Shown (aliased t name) (.entry (named t.pieces name)) := by
  refine .entry (aliased_pieces t name h) ?_
  rw [named, shows_append, shows_bracketed]
  rfl

theorem Select.renders_toTerm (s : Select) : s.toTerm.renders = true := s.shows_layOut

theorem valuesTable_row {rows : List (List Term)}
    (h : (!rows.isEmpty && rows.all fun row => !row.isEmpty && row.all Term.renders) = true) :
    IsRow (valuesTable rows).pieces
      [.word "values",
        .listed (rows.map fun row => bracketed (row.map fun t => t.arg.pieces))] := by
  simp only [Bool.and_eq_true, Bool.not_eq_true', List.isEmpty_eq_false_iff, List.all_eq_true] at h
  have laidOut : ((rows.map fun row => row.map Term.arg).map Term.parenList).map Term.pieces =
      rows.map fun row => bracketed (row.map fun t => t.arg.pieces) := by
    rw [List.map_map, List.map_map]
    refine List.map_congr_left fun row member => ?_
    have values : (row.map Term.arg).map Term.pieces = row.map fun t => t.arg.pieces := by simp
    have each : ∀ e ∈ row.map fun t => t.arg.pieces, shows e = true :=
      List.forall_mem_map.mpr fun t inside => Term.renders_arg ((h.2 row member).2 t inside)
    exact (Shown.bracketed values (by simpa using (h.2 row member).1) each).pieces
  have each : ∀ e ∈ rows.map fun row => bracketed (row.map fun t => t.arg.pieces),
      shows e = true := List.forall_mem_map.mpr fun row _ => shows_bracketed _
  exact .of_shown (.word (by decide)) (.cons (.listed laidOut (by simpa using h.1) each) .nil)

section Items
variable {call : SelectCall}

theorem SelectCall.column_entries (h : call.renders = true) :
    Entries call.columnItems call.columnEntries := by
  cases call with
  | columns ts => exact .ofAll h
  | columnSelect select name =>
    exact .single (shown_aliased (Select.build select).renders_toTerm name)
  | _ => exact .nil

theorem SelectCall.source_entries (h : call.renders = true) :
    Entries call.sourceItems call.sourceEntries := by
  cases call with
  | sources ts => exact .ofAll h
  | sourceSelect select name =>
    exact .single (shown_aliased (Select.build select).renders_toTerm name)
  | sourceValues rows name =>
    have row := valuesTable_row h
    have table := shown_aliased row.shows name
    rw [row.text] at table
    exact .single table
  | _ => exact .nil

theorem SelectCall.group_entries (h : call.renders = true) :
    Entries call.groupItems call.groupEntries := by
  cases call with
  | groupBy ts => exact .ofAll h
  | _ => exact .nil

theorem SelectCall.order_entries (h : call.renders = true) :
    Entries (call.orderItems.map OrderItem.toTerm) call.orderEntries := by
  cases call with
  | orderBy column words => exact BoundSql.order_entries h words
  | _ => exact .nil

theorem SelectCall.distinct_entries (h : call.renders = true) :
    Entries call.distinctItems.flatten call.distinctEntries := by
  cases call with
  | distinct on =>
    have whole : (SelectCall.distinct on).distinctItems.flatten = on.flatten :=
      List.flatten_singleton
    rw [whole]
    exact .ofAll h
  | _ => exact .nil

theorem SelectCall.filters_render (h : call.renders = true) :
    ConditionCall.rendersAll call.filters = true := by
  cases call with
  | filter condition => exact h
  | _ => rfl

theorem SelectCall.havings_render (h : call.renders = true) :
    ConditionCall.rendersAll call.havings = true := by
  cases call with
  | having condition => exact h
  | _ => rfl

end Items

theorem distinctOf_some (on : List Term) (asked : List (List Term)) :
    distinctOf (some on) asked = some (on ++ asked.flatten) := by
  induction asked generalizing on with
  | nil => simp [distinctOf]
  | cons first rest ih =>
    have next : distinctOf (some on) (first :: rest) = distinctOf (some (on ++ first)) rest := rfl
    rw [next, ih, List.flatten_cons, List.append_assoc]

theorem distinctOf_none (asked : List (List Term)) :
    distinctOf none asked = if asked.isEmpty then none else some asked.flatten := by
  cases asked with
  | nil => rfl
  | cons first rest => exact distinctOf_some first rest

theorem SelectCall.distinctItems_isEmpty (calls : List SelectCall) :
    (calls.flatMap SelectCall.distinctItems).isEmpty = !calls.any SelectCall.asksDistinct := by
  induction calls with
  | nil => rfl
  | cons call rest ih =>
    cases call with
    | distinct on => rfl
    | _ => exact ih

theorem shown_distinct {calls : List SelectCall} (h : ∀ call ∈ calls, call.renders = true) :
    Forall₂ Shown (Select.extended {} calls).distinctTerms
      (if calls.any SelectCall.asksDistinct then
        .word "distinct" :: bracketedPart "on" (calls.flatMap SelectCall.distinctEntries)
      else []) := by
  have entries : Entries (calls.flatMap SelectCall.distinctItems).flatten
      (calls.flatMap SelectCall.distinctEntries) := by
    rw [← List.flatMap_id, List.flatMap_assoc]
    exact .flatMap fun call member => by
      rw [List.flatMap_id]
      exact SelectCall.distinct_entries (h call member)
  have given : (Select.extended {} calls).distinct =
      distinctOf none (calls.flatMap SelectCall.distinctItems) := rfl
  rw [Select.distinctTerms, given, distinctOf_none, SelectCall.distinctItems_isEmpty]
  cases calls.any SelectCall.asksDistinct with
  | false => exact .nil
  | true =>
    have on : Forall₂ Shown (parenClause "on" (calls.flatMap SelectCall.distinctItems).flatten)
        (bracketedPart "on" (calls.flatMap SelectCall.distinctEntries)) :=
      entries.bracketedPart (by decide)
    exact .cons (.word (by decide)) on

def Join.row (j : Join) : List Term :=
  [Term.word j.kind.text] ++ (if j.lateral then [Term.word "lateral"] else []) ++ [j.target]
    ++ conditionClause "on" j.on ++ parenClause "using" j.usingColumns

theorem Join.map_toTerm (joins : List Join) :
    joins.map Join.toTerm = (joins.map Join.row).map Term.nested := by
  rw [List.map_map]
  rfl

theorem shown_join (kind : JoinKind) (lateral : Bool) {target : Term} {pieces : List Piece}
    {ties : List JoinCall} (shown : Shown target (.entry pieces))
    (h : JoinCall.rendersAll ties = true) :
    Forall₂ Shown (Join.build kind lateral target ties).row
      (joinSentence kind lateral pieces ties) := by
  have each : ∀ tie ∈ ties, tie.renders = true := (rendersAll_iff rfl (fun _ _ => rfl) ties).mp h
  have conditions : ConditionCall.rendersAll (ties.flatMap JoinCall.conditions) = true := by
    refine rendersAll_conditions fun tie member => ?_
    cases tie with
    | on condition => exact each _ member
    | usingColumns ts => rfl
  have columns : Entries (ties.flatMap JoinCall.tied)
      ((ties.flatMap JoinCall.tied).map Term.pieces) := by
    refine .ofAll ?_
    rw [List.all_flatMap, List.all_eq_true]
    intro tie member
    cases tie with
    | on condition => rfl
    | usingColumns ts => exact each _ member
  have word : kind.text ≠ "" := by cases kind <;> decide
  have first : Forall₂ Shown [Term.word kind.text] [.word kind.text] := .cons (.word word) .nil
  have second : Forall₂ Shown (if lateral then [Term.word "lateral"] else [])
      (if lateral then [.word "lateral"] else []) := by
    cases lateral with
    | false => exact .nil
    | true => exact .cons (.word (by decide)) .nil
  have third : Forall₂ Shown [target] [.entry pieces] := .cons shown .nil
  have fourth : Forall₂ Shown
      (conditionClause "on" (Condition.build (ties.flatMap JoinCall.conditions)))
      (conditionPart "on" (ties.flatMap JoinCall.conditions)) :=
    shown_conditionPart (by decide) conditions
  have fifth : Forall₂ Shown (parenClause "using" (ties.flatMap JoinCall.tied))
      (bracketedPart "using" ((ties.flatMap JoinCall.tied).map Term.pieces)) :=
    columns.bracketedPart (by decide)
  rw [Join.build, JoinCall.applyAll_eq, joinSentence]
  exact List.rel_append (List.rel_append (List.rel_append (List.rel_append first second) third)
    fourth) fifth

theorem SelectCall.shown_joined {call : SelectCall} (h : call.renders = true) :
    Forall₂ Shown (call.joined.flatMap Join.row) call.joinSentence := by
  cases call with
  | join kind target ties =>
    rw [renders, Bool.and_eq_true] at h
    rw [joined, List.flatMap_singleton]
    exact shown_join kind false (.entry rfl h.1) h.2
  | joinSelect kind lateral select name ties =>
    rw [renders, Bool.and_eq_true] at h
    rw [joined, List.flatMap_singleton]
    exact shown_join kind lateral (shown_aliased (Select.build select).renders_toTerm name) h.2
  | joinUnion kind union name ties =>
    rw [renders, Bool.and_eq_true, Bool.and_eq_true] at h
    have inner : (Union.build union).toTerm.renders = true :=
      Union.shows_layOut h.1.1 (UnionCall.unitedAll_render union h.1.2)
    rw [joined, List.flatMap_singleton]
    exact shown_join kind false (shown_aliased inner name) h.2
  | _ => exact .nil

theorem shown_sources {calls : List SelectCall} (h : ∀ call ∈ calls, call.renders = true) :
    Forall₂ Shown
      (if (calls.flatMap SelectCall.sourceItems).isEmpty then []
        else [Term.word "from", .commaList (calls.flatMap SelectCall.sourceItems)]
          ++ (calls.flatMap SelectCall.joined).flatMap Join.row)
      (if (calls.flatMap SelectCall.sourceEntries).isEmpty then []
        else [.word "from", .listed (calls.flatMap SelectCall.sourceEntries)]
          ++ calls.flatMap SelectCall.joinSentence) := by
  have sources : Entries (calls.flatMap SelectCall.sourceItems)
      (calls.flatMap SelectCall.sourceEntries) :=
    .flatMap fun call member => SelectCall.source_entries (h call member)
  have joins := shown_flatMap fun call member => SelectCall.shown_joined (h call member)
  rw [sources.isEmpty, List.flatMap_assoc]
  refine shown_unless fun nonempty => ?_
  have clause : Forall₂ Shown [Term.word "from", .commaList (calls.flatMap SelectCall.sourceItems)]
      [.word "from", .listed (calls.flatMap SelectCall.sourceEntries)] :=
    .cons (.word (by decide)) (.cons (sources.listed nonempty) .nil)
  exact List.rel_append clause joins

def Select.row (s : Select) : List Term :=
  [Term.word "select"] ++ s.distinctTerms
    ++ (if s.columns.isEmpty then [] else [Term.commaList s.columns])
    ++ (if s.sources.isEmpty then []
      else [Term.word "from", .commaList s.sources] ++ s.joins.flatMap Join.row)
    ++ conditionClause "where" s.filter ++ parenClause "group by" s.groupBy
    ++ conditionClause "having" s.having ++ s.paging.terms

theorem Select.layOut_row (s : Select) : layOut s.terms = layOut s.row := by
  rw [terms, row, sourceTerms]
  by_cases sourceless : s.sources.isEmpty = true
  · rw [if_pos sourceless, if_pos sourceless]
  · have whole := layOut_nested
      ([Term.word "select"] ++ s.distinctTerms
        ++ (if s.columns.isEmpty then [] else [Term.commaList s.columns])
        ++ [Term.word "from", .commaList s.sources])
      (s.joins.map Join.row)
      (conditionClause "where" s.filter ++ parenClause "group by" s.groupBy
        ++ conditionClause "having" s.having ++ s.paging.terms)
    rw [if_neg sourceless, if_neg sourceless, Join.map_toTerm, List.flatMap_def]
    simp only [List.append_assoc] at whole ⊢
    exact whole

theorem Select.shown {calls : List SelectCall} (h : SelectCall.rendersAll calls = true) :
    Forall₂ Shown (Select.build calls).row (selectSentence calls) := by
  have each : ∀ call ∈ calls, call.renders = true :=
    (rendersAll_iff rfl (fun _ _ => rfl) calls).mp h
  have columns : Entries (calls.flatMap SelectCall.columnItems)
      (calls.flatMap SelectCall.columnEntries) :=
    .flatMap fun call member => SelectCall.column_entries (each call member)
  have groups : Entries (calls.flatMap SelectCall.groupItems)
      (calls.flatMap SelectCall.groupEntries) :=
    .flatMap fun call member => SelectCall.group_entries (each call member)
  have order : Entries ((calls.flatMap SelectCall.orderItems).map OrderItem.toTerm)
      (calls.flatMap SelectCall.orderEntries) := by
    rw [List.map_flatMap]
    exact .flatMap fun call member => SelectCall.order_entries (each call member)
  have filter : Forall₂ Shown
      (conditionClause "where" (Condition.build (calls.flatMap SelectCall.filters)))
      (conditionPart "where" (calls.flatMap SelectCall.filters)) :=
    shown_conditionPart (by decide)
      (rendersAll_conditions fun call member => SelectCall.filters_render (each call member))
  have having : Forall₂ Shown
      (conditionClause "having" (Condition.build (calls.flatMap SelectCall.havings)))
      (conditionPart "having" (calls.flatMap SelectCall.havings)) :=
    shown_conditionPart (by decide)
      (rendersAll_conditions fun call member => SelectCall.havings_render (each call member))
  have grouped : Forall₂ Shown (parenClause "group by" (calls.flatMap SelectCall.groupItems))
      (bracketedPart "group by" (calls.flatMap SelectCall.groupEntries)) :=
    groups.bracketedPart (by decide)
  have paging := shown_paging order (calls.flatMap SelectCall.limits)
    (calls.flatMap SelectCall.offsets)
  have keyword : Forall₂ Shown [Term.word "select"] [.word "select"] :=
    .cons (.word (by decide)) .nil
  have start := List.rel_append (List.rel_append keyword (shown_distinct each)) columns.list
  have middle :=
    List.rel_append (List.rel_append (List.rel_append start (shown_sources each)) filter)
    grouped
  have whole := List.rel_append (List.rel_append middle having) paging
  -- the parts of the paging stand in one row with the others
  rw [build_eq, row, selectSentence]
  simp only [List.append_assoc] at whole ⊢
  exact whole

mutual

theorem ConditionCall.inside_renders (call : ConditionCall) (h : call.renders = true) :
    ∀ p ∈ call.inside, p.renders = true := by
  cases call with
  | inSelect left select | stepwiseSelect left operator select =>
    rw [ConditionCall.renders, Bool.and_eq_true] at h
    exact List.forall_mem_cons.mpr ⟨h.2, SelectCall.insideAll_renders select h.2⟩
  | not inner | chained connective inner => exact ConditionCall.insideAll_renders inner h
  | _ => exact fun p member => absurd member List.not_mem_nil

theorem ConditionCall.insideAll_renders (calls : List ConditionCall)
    (h : ConditionCall.rendersAll calls = true) :
    ∀ p ∈ ConditionCall.insideAll calls, p.renders = true := by
  cases calls with
  | nil => exact fun p member => absurd member List.not_mem_nil
  | cons call rest =>
    rw [ConditionCall.rendersAll, Bool.and_eq_true] at h
    exact List.forall_mem_append.mpr
      ⟨ConditionCall.inside_renders call h.1, ConditionCall.insideAll_renders rest h.2⟩

theorem SelectCall.inside_renders (call : SelectCall) (h : call.renders = true) :
    ∀ p ∈ call.inside, p.renders = true := by
  cases call with
  | columnSelect select name | sourceSelect select name =>
    exact List.forall_mem_cons.mpr ⟨h, SelectCall.insideAll_renders select h⟩
  | join kind target ties =>
    rw [SelectCall.renders, Bool.and_eq_true] at h
    exact JoinCall.insideAll_renders ties h.2
  | joinSelect kind lateral select name ties =>
    rw [SelectCall.renders, Bool.and_eq_true] at h
    have inner : ∀ p ∈ Program.select select :: SelectCall.insideAll select, p.renders = true :=
      List.forall_mem_cons.mpr ⟨h.1, SelectCall.insideAll_renders select h.1⟩
    exact List.forall_mem_append.mpr ⟨inner, JoinCall.insideAll_renders ties h.2⟩
  | joinUnion kind union name ties =>
    rw [SelectCall.renders, Bool.and_eq_true] at h
    have parts := h.1
    rw [Bool.and_eq_true] at parts
    have inner : ∀ p ∈ Program.union union :: UnionCall.insideAll union, p.renders = true :=
      List.forall_mem_cons.mpr ⟨h.1, UnionCall.insideAll_renders union parts.2⟩
    exact List.forall_mem_append.mpr ⟨inner, JoinCall.insideAll_renders ties h.2⟩
  | filter condition | having condition => exact ConditionCall.insideAll_renders condition h
  | _ => exact fun p member => absurd member List.not_mem_nil

theorem SelectCall.insideAll_renders (calls : List SelectCall)
    (h : SelectCall.rendersAll calls = true) :
    ∀ p ∈ SelectCall.insideAll calls, p.renders = true := by
  cases calls with
  | nil => exact fun p member => absurd member List.not_mem_nil
  | cons call rest =>
    rw [SelectCall.rendersAll, Bool.and_eq_true] at h
    exact List.forall_mem_append.mpr
      ⟨SelectCall.inside_renders call h.1, SelectCall.insideAll_renders rest h.2⟩

theorem JoinCall.inside_renders (call : JoinCall) (h : call.renders = true) :
    ∀ p ∈ call.inside, p.renders = true := by
  cases call with
  | on condition => exact ConditionCall.insideAll_renders condition h
  | usingColumns ts => exact fun p member => absurd member List.not_mem_nil

theorem JoinCall.insideAll_renders (calls : List JoinCall)
    (h : JoinCall.rendersAll calls = true) :
    ∀ p ∈ JoinCall.insideAll calls, p.renders = true := by
  cases calls with
  | nil => exact fun p member => absurd member List.not_mem_nil
  | cons call rest =>
    rw [JoinCall.rendersAll, Bool.and_eq_true] at h
    exact List.forall_mem_append.mpr
      ⟨JoinCall.inside_renders call h.1, JoinCall.insideAll_renders rest h.2⟩

theorem UnionCall.inside_renders (call : UnionCall) (h : call.renders = true) :
    ∀ p ∈ call.inside, p.renders = true := by
  cases call with
  | select keepAll select =>
    exact List.forall_mem_cons.mpr ⟨h, SelectCall.insideAll_renders select h⟩
  | union keepAll union =>
    have parts := h
    rw [UnionCall.renders, Bool.and_eq_true] at parts
    exact List.forall_mem_cons.mpr ⟨h, UnionCall.insideAll_renders union parts.2⟩
  | _ => exact fun p member => absurd member List.not_mem_nil

theorem UnionCall.insideAll_renders (calls : List UnionCall)
    (h : UnionCall.rendersAll calls = true) :
    ∀ p ∈ UnionCall.insideAll calls, p.renders = true := by
  cases calls with
  | nil => exact fun p member => absurd member List.not_mem_nil
  | cons call rest =>
    rw [UnionCall.rendersAll, Bool.and_eq_true] at h
    exact List.forall_mem_append.mpr
      ⟨UnionCall.inside_renders call h.1, UnionCall.insideAll_renders rest h.2⟩

end

theorem Program.follows (p : Program) (h : p.renders = true) :
    layOut p.terms = spaced (p.sentence.map Part.pieces) ∧ ∀ part ∈ p.sentence, part.IsFull := by
  cases p with
  | select calls =>
    have row := Select.shown h
    exact ⟨(Select.build calls).layOut_row.trans (layOut_shown row), full_of_shown row⟩
  | union calls =>
    rw [renders, Bool.and_eq_true] at h
    have row := Union.shown h.2
    exact ⟨layOut_shown row, full_of_shown row⟩
  | _ => exact absurd h (by simp [renders])

/-- Where all that is given renders, a select is laid out as its sentence, in which
nothing is empty, and so is every select and union inside it.  Its query is that text
with the placeholders numbered. -/
theorem select_follows_grammar (calls : List SelectCall) (h : SelectCall.rendersAll calls = true) :
    ∀ p ∈ Program.select calls :: SelectCall.insideAll calls,
      layOut p.terms = spaced (p.sentence.map Part.pieces) ∧
        p.query = assemble (spaced (p.sentence.map Part.pieces)) ∧
        ∀ part ∈ p.sentence, part.IsFull := by
  intro p member
  have given : p.renders = true := by
    rcases List.mem_cons.mp member with outer | inner
    · rw [outer]
      exact h
    · exact SelectCall.insideAll_renders calls h p inner
  obtain ⟨text, parts⟩ := p.follows given
  exact ⟨text, (compile_eq_assemble p.terms).trans (congrArg assemble text), parts⟩

def visitReport : List SelectCall :=
  [.limit 20,
    .filter [.not [.mode .or, .isIn (.word "kind") [.literal (.int8 1), .literal (.int8 2)],
        .isNull (.word "kind")], .chained .or [.rawText "pinned"], .chained .and []],
    .joinUnion .left [.select false [.columns [.word "id"], .sources [.word "users_2023"]],
        .select true [.columns [.word "id"], .sources [.word "users_2024"]]] "u"
      [.usingColumns [.word "id"]],
    .sources [.word "visits v"], .sourceValues [[.literal (.int8 5)], [.word "n"]] "limits",
    .having [], .groupBy [.word "v.id"], .orderBy (.word "v.id") [.desc, .nullsLast],
    .columns [.word "v.id", .word "count(*)"]]

theorem select_follows_grammar_visitReport :
    SelectCall.rendersAll visitReport = true ∧
      (Program.select visitReport).query.sql =
        "select v.id, count(*) from visits v, (values ($1), ($2)) limits"
          ++ " left join ((select id from users_2023) union all (select id from users_2024)) u"
          ++ " using (id) where ((not (kind in ($3, $4) or kind is null))) or (pinned)"
          ++ " group by (v.id) order by v.id desc nulls last limit 20" ∧
      ∀ part ∈ selectSentence visitReport, part.IsFull := by
  have given : SelectCall.rendersAll visitReport = true := by decide
  have whole := select_follows_grammar visitReport given (.select visitReport) List.mem_cons_self
  exact ⟨given, by decide +kernel, whole.2.2⟩

end BoundSql
