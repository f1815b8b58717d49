import BoundSql.Proofs.ConditionPlaces
import BoundSql.Proofs.Relocation

/-! # Parts of a statement that stay at their place

Each call puts what it is given at one place of the statement that is built, and the
other calls decide what stands around it. -/
set_option autoImplicit false
namespace BoundSql

variable {H : Type}

theorem Term.pieces_parenthesized (t : Term) :
    t.parenthesized.pieces = enclosedPieces "" t.pieces := by
  have inner : t.parenthesized.pieces = enclosedPieces "" (joinPieces comma [t.pieces]) := rfl
  rw [inner]
  cases seen : shows t.pieces with
  | true => rw [joinPieces_single comma t.pieces seen]
  | false =>
    rw [joinPieces_cons_hidden comma t.pieces [] seen, enclosedPieces, enclosedPieces, seen]
    rfl

theorem relocates_aliased (t : H → Term) (name : String) :
    Relocates (fun x => enclosedPieces "" (t x).pieces) fun x => (aliased (t x) name).pieces := by
  have first := Carried.head (if name.isEmpty then [] else [Term.word name])
    fun x => (t x).parenthesized
  simp only [← Term.pieces_parenthesized]
  exact first.layOut

theorem relocates_wrapped (wrap : Bool) (ts : H → List Term) :
    Relocates (fun x => layOut (ts x)) fun x => layOut (wrapped wrap (ts x)) := by
  cases wrap with
  | false => exact .refl _
  | true =>
    have paren := Carried.head [] fun x => Term.paren "" " " (ts x)
    exact (Relocates.enclosed "" _).trans paren.layOut

theorem chainTerms_append (first second : List (Connective × List Term)) :
    chainTerms (first ++ second) = chainTerms first ++ chainTerms second := by
  induction first with
  | nil => rfl
  | cons l rest ih => rw [List.cons_append, chainTerms, chainTerms, ih]; rfl

theorem carried_chain (front back : List (Connective × List Term)) (connective : Connective)
    (inner : H → List Term) :
    Carried (fun x => Term.nested (inner x))
      fun x => chainTerms (front ++ (connective, inner x) :: back) := by
  refine ⟨chainTerms front ++ [Term.word connective.text], chainTerms back, ?_⟩
  intro x
  simp only [chainTerms_append, chainTerms]
  simp

theorem Condition.relocates_entry (front back : List Term) (mode : Connective)
    (chain : List (Connective × List Term)) (t : H → Term) (nested : Bool) :
    Relocates (fun x => (t x).pieces)
      fun x => layOut (Condition.terms nested ⟨front ++ t x :: back, mode, chain⟩) := by
  have terms (x : H) : Condition.terms nested ⟨front ++ t x :: back, mode, chain⟩ =
      wrapped (nested && !chain.isEmpty)
        (.paren "" mode.separator (front ++ t x :: back) :: chainTerms chain) := by
    simp [Condition.terms]
  have clause := (Carried.middle front back t).paren "" mode.separator
  simp only [terms]
  exact (clause.trans (Carried.head _ _).layOut).trans (relocates_wrapped _ _)

theorem Condition.relocates_link (predicates : List Term) (mode : Connective)
    (front back : List (Connective × List Term)) (connective : Connective)
    (inner : H → List Term) (nested : Bool) :
    Relocates (fun x => layOut (inner x)) fun x =>
      layOut (Condition.terms nested
        ⟨predicates, mode, front ++ (connective, inner x) :: back⟩) := by
  cases predicates with
  | cons p rest =>
    have chain := (carried_chain front back connective inner).within
      [Term.paren "" mode.separator (p :: rest)] []
    have terms (x : H) :
        Condition.terms nested ⟨p :: rest, mode, front ++ (connective, inner x) :: back⟩ =
          wrapped nested ([Term.paren "" mode.separator (p :: rest)] ++
            chainTerms (front ++ (connective, inner x) :: back) ++ []) := by
      have linked : (front ++ (connective, inner x) :: back).isEmpty = false := by simp
      simp [Condition.terms, linked]
    simp only [terms]
    exact chain.layOut.trans (relocates_wrapped nested _)
  | nil =>
    cases front with
    | nil =>
      cases back with
      | nil => exact .refl _
      | cons second more =>
        have terms (x : H) :
            Condition.terms nested ⟨[], mode, [] ++ (connective, inner x) :: second :: more⟩ =
              wrapped nested (.nested (inner x) :: chainTerms (second :: more)) := rfl
        simp only [terms]
        exact (Carried.head _ fun x => Term.nested (inner x)).layOut.trans
          (relocates_wrapped nested _)
    | cons first more =>
      have chain := (carried_chain more back connective inner).within [Term.nested first.2] []
      have terms (x : H) :
          Condition.terms nested
              ⟨[], mode, first :: more ++ (connective, inner x) :: back⟩ =
            wrapped nested ([Term.nested first.2] ++
              chainTerms (more ++ (connective, inner x) :: back) ++ []) := by
        cases more <;> simp [Condition.terms]
      simp only [terms]
      exact chain.layOut.trans (relocates_wrapped nested _)

theorem Condition.relocates_entryCall (before after : List ConditionCall)
    {call : H → ConditionCall} {t : H → Term} (entry : ∀ x, (call x).entry = [t x])
    (link : ∀ x, (call x).link = []) (mode : ∀ x m, (call x).chooseMode m = m) :
    (∀ x, (Condition.build (before ++ call x :: after)).isEmpty = false) ∧ ∀ nested,
      Relocates (fun x => (t x).pieces)
        fun x => layOut ((Condition.build (before ++ call x :: after)).terms nested) := by
  have built (x : H) : Condition.build (before ++ call x :: after) =
      ⟨before.flatMap ConditionCall.entry ++ t x :: after.flatMap ConditionCall.entry,
        lastMode (before ++ after), (before ++ after).flatMap ConditionCall.link⟩ := by
    simp [build_eq, entry, link, lastMode, mode]
  refine ⟨fun x => by simp [built, isEmpty], ?_⟩
  intro nested
  simp only [built]
  exact Condition.relocates_entry _ _ _ _ t nested

theorem Condition.relocates_linkCall (before after : List ConditionCall)
    {call : H → ConditionCall} {connective : Connective} {inner : H → List Term}
    (entry : ∀ x, (call x).entry = []) (link : ∀ x, (call x).link = [(connective, inner x)])
    (mode : ∀ x m, (call x).chooseMode m = m) :
    (∀ x, (Condition.build (before ++ call x :: after)).isEmpty = false) ∧ ∀ nested,
      Relocates (fun x => layOut (inner x))
        fun x => layOut ((Condition.build (before ++ call x :: after)).terms nested) := by
  have built (x : H) : Condition.build (before ++ call x :: after) =
      ⟨(before ++ after).flatMap ConditionCall.entry, lastMode (before ++ after),
        before.flatMap ConditionCall.link ++
          (connective, inner x) :: after.flatMap ConditionCall.link⟩ := by
    simp [build_eq, entry, link, lastMode, mode]
  refine ⟨fun x => by simp [built, isEmpty], ?_⟩
  intro nested
  simp only [built]
  exact Condition.relocates_link _ _ _ _ connective inner nested

theorem carried_conditionClause (keyword : String) {c : H → Condition}
    (nonempty : ∀ x, (c x).isEmpty = false) :
    Carried (fun x => (c x).toTerm) fun x => conditionClause keyword (c x) := by
  refine ⟨[Term.word keyword], [], ?_⟩
  intro x
  simp [conditionClause, nonempty]

theorem relocates_joinTarget (kind : JoinKind) (lateral : Bool) (ties : List JoinCall)
    (t : H → Term) :
    Relocates (fun x => (t x).pieces)
      fun x => (Join.build kind lateral (t x) ties).toTerm.pieces := by
  have terms (x : H) : (Join.build kind lateral (t x) ties).toTerm =
      .nested ([Term.word kind.text] ++ (if lateral then [Term.word "lateral"] else []) ++ t x ::
        (conditionClause "on" (Condition.build (ties.flatMap JoinCall.conditions))
          ++ parenClause "using" (ties.flatMap JoinCall.tied))) := by
    simp [Join.build, JoinCall.applyAll_eq, Join.toTerm, Condition.build]
  simp only [terms]
  exact (Carried.middle _ _ t).layOut

theorem relocates_joinOn (kind : JoinKind) (lateral : Bool) (target : Term)
    (before after : List JoinCall) {calls : H → List ConditionCall}
    (nonempty : ∀ x, (Condition.build (before.flatMap JoinCall.conditions ++ calls x ++
      after.flatMap JoinCall.conditions)).isEmpty = false) :
    Relocates
      (fun x => layOut ((Condition.build (before.flatMap JoinCall.conditions ++ calls x ++
        after.flatMap JoinCall.conditions)).terms false))
      fun x =>
        (Join.build kind lateral target (before ++ .on (calls x) :: after)).toTerm.pieces := by
  have on (x : H) : (before ++ .on (calls x) :: after).flatMap JoinCall.conditions =
      before.flatMap JoinCall.conditions ++ calls x ++ after.flatMap JoinCall.conditions := by
    simp [JoinCall.conditions]
  have tied (x : H) : (before ++ .on (calls x) :: after).flatMap JoinCall.tied =
      (before ++ after).flatMap JoinCall.tied := by
    simp [JoinCall.tied]
  have clause := (carried_conditionClause "on" nonempty).within
    ([Term.word kind.text] ++ (if lateral then [Term.word "lateral"] else []) ++ [target])
    (parenClause "using" ((before ++ after).flatMap JoinCall.tied))
  simp only [Join.build, JoinCall.applyAll_eq, on, tied]
  exact clause.layOut

theorem Carried.commaList {t : H → Term} {ts : H → List Term} (h : Carried t ts) :
    Relocates (fun x => (t x).pieces) fun x => (Term.commaList (ts x)).pieces := h.join comma

theorem relocates_columnSelect (before after : List SelectCall) (name : String)
    (calls : H → List SelectCall) :
    Relocates (fun x => enclosedPieces "" (layOut (Select.build (calls x)).terms)) fun x =>
      layOut (Select.build (before ++ .columnSelect (calls x) name :: after)).terms := by
  let s := Select.build (before ++ after)
  let back := s.sourceTerms ++ conditionClause "where" s.filter
    ++ parenClause "group by" s.groupBy ++ conditionClause "having" s.having ++ s.paging.terms
  have built (x : H) : Select.build (before ++ .columnSelect (calls x) name :: after) =
      { s with columns := before.flatMap SelectCall.columnItems ++
        aliased (Select.build (calls x)).toTerm name ::
          after.flatMap SelectCall.columnItems } := by
    simp [s, Select.build_eq, Select.extended, SelectCall.distinctItems, SelectCall.columnItems,
      SelectCall.sourceItems, SelectCall.joined, SelectCall.filters, SelectCall.groupItems,
      SelectCall.havings, SelectCall.orderItems, SelectCall.limits, SelectCall.offsets]
  have terms (x : H) :
      (Select.build (before ++ .columnSelect (calls x) name :: after)).terms =
        [Term.word "select"] ++ s.distinctTerms ++
          Term.commaList (before.flatMap SelectCall.columnItems ++
            aliased (Select.build (calls x)).toTerm name ::
              after.flatMap SelectCall.columnItems) :: back := by
    simp [built, Select.terms, back, Select.sourceTerms, Select.distinctTerms]
  have column := (Carried.middle (before.flatMap SelectCall.columnItems)
    (after.flatMap SelectCall.columnItems)
    fun x => aliased (Select.build (calls x)).toTerm name).commaList
  simp only [terms]
  exact ((relocates_aliased _ name).trans column).trans (Carried.middle _ back _).layOut

theorem relocates_source (before after : List SelectCall) {call : H → SelectCall} {t : H → Term}
    (items : ∀ x, (call x).sourceItems = [t x]) :
    Relocates (fun x => (t x).pieces) fun x =>
      layOut (Select.build (before ++ call x :: after)).terms := by
  let s := Select.build (before ++ after)
  let front := [Term.word "select"] ++ s.distinctTerms
    ++ (if s.columns.isEmpty then [] else [Term.commaList s.columns]) ++ [Term.word "from"]
  let back := s.joins.map Join.toTerm ++ conditionClause "where" s.filter
    ++ parenClause "group by" s.groupBy ++ conditionClause "having" s.having ++ s.paging.terms
  have built (x : H) : Select.build (before ++ call x :: after) =
      { s with sources := (before.flatMap SelectCall.sourceItems ++
          t x :: after.flatMap SelectCall.sourceItems) } := by
    have one := items x
    have given : (call x).distinctItems = [] ∧ (call x).columnItems = [] ∧
        (call x).joined = [] ∧ (call x).filters = [] ∧ (call x).groupItems = [] ∧
        (call x).havings = [] ∧ (call x).orderItems = [] ∧ (call x).limits = [] ∧
        (call x).offsets = [] := by
      cases kind : call x <;> simp [kind, SelectCall.sourceItems] at one <;>
        exact ⟨rfl, rfl, rfl, rfl, rfl, rfl, rfl, rfl, rfl⟩
    obtain ⟨distinct, columns, joins, filters, groups, havings, orders, limits, offsets⟩ := given
    simp [s, Select.build_eq, Select.extended, one, distinct, columns, joins, filters, groups,
      havings, orders, limits, offsets]
  have terms (x : H) : (Select.build (before ++ call x :: after)).terms =
      front ++ Term.commaList (before.flatMap SelectCall.sourceItems ++
        t x :: after.flatMap SelectCall.sourceItems) :: back := by
    simp [built, Select.terms, front, back, Select.sourceTerms, Select.distinctTerms]
  have source := (Carried.middle (before.flatMap SelectCall.sourceItems)
    (after.flatMap SelectCall.sourceItems) t).commaList
  simp only [terms]
  exact source.trans (Carried.middle front back _).layOut

theorem relocates_sourceSelect (before after : List SelectCall) (name : String)
    (calls : H → List SelectCall) :
    Relocates (fun x => enclosedPieces "" (layOut (Select.build (calls x)).terms)) fun x =>
      layOut (Select.build (before ++ .sourceSelect (calls x) name :: after)).terms :=
  (relocates_aliased (fun x => (Select.build (calls x)).toTerm) name).trans
    (relocates_source before after fun _ => rfl)

/-- A joined table has its place where there is a source to join it to. -/
theorem relocates_joined (before after : List SelectCall) {call : H → SelectCall} {j : H → Join}
    (joined : ∀ x, (call x).joined = [j x])
    (source : (before ++ after).flatMap SelectCall.sourceItems ≠ []) :
    Relocates (fun x => (j x).toTerm.pieces) fun x =>
      layOut (Select.build (before ++ call x :: after)).terms := by
  let s := Select.build (before ++ after)
  let front := [Term.word "select"] ++ s.distinctTerms
    ++ (if s.columns.isEmpty then [] else [Term.commaList s.columns])
    ++ [Term.word "from", .commaList s.sources]
  let back := conditionClause "where" s.filter ++ parenClause "group by" s.groupBy
    ++ conditionClause "having" s.having ++ s.paging.terms
  have built (x : H) : Select.build (before ++ call x :: after) =
      { s with joins := (before.flatMap SelectCall.joined ++
          j x :: after.flatMap SelectCall.joined) } := by
    have one := joined x
    have given : (call x).distinctItems = [] ∧ (call x).columnItems = [] ∧
        (call x).sourceItems = [] ∧ (call x).filters = [] ∧ (call x).groupItems = [] ∧
        (call x).havings = [] ∧ (call x).orderItems = [] ∧ (call x).limits = [] ∧
        (call x).offsets = [] := by
      cases kind : call x <;> simp [kind, SelectCall.joined] at one <;>
        exact ⟨rfl, rfl, rfl, rfl, rfl, rfl, rfl, rfl, rfl⟩
    obtain ⟨distinct, columns, sources, filters, groups, havings, orders, limits, offsets⟩ := given
    simp [s, Select.build_eq, Select.extended, one, distinct, columns, sources, filters, groups,
      havings, orders, limits, offsets]
  have sources : s.sources.isEmpty = false := by
    have own : s.sources = (before ++ after).flatMap SelectCall.sourceItems := by
      simp [s, Select.build_eq, Select.extended]
    simpa [own] using source
  have terms (x : H) : (Select.build (before ++ call x :: after)).terms =
      front ++ (before.flatMap SelectCall.joined ++ j x :: after.flatMap SelectCall.joined).map
        Join.toTerm ++ back := by
    simp [built, Select.terms, front, back, Select.sourceTerms, Select.distinctTerms, sources]
  have place := ((Carried.middle (before.flatMap SelectCall.joined)
    (after.flatMap SelectCall.joined) j).map Join.toTerm).within front back
  simp only [terms]
  exact place.layOut

/-- A condition has its place behind its keyword, among all that is called on it. -/
theorem KeywordPlace.relocates {b : Builder} (place : KeywordPlace b) (before after : List b.Call)
    {calls : H → List ConditionCall}
    (nonempty : ∀ x, (Condition.build (before.flatMap place.conditions ++ calls x ++
      after.flatMap place.conditions)).isEmpty = false) :
    Relocates
      (fun x => layOut ((Condition.build (before.flatMap place.conditions ++ calls x ++
        after.flatMap place.conditions)).terms false))
      fun x => layOut (place.terms (place.build (before ++ place.call (calls x) :: after))) := by
  obtain ⟨front, back, -, split⟩ := place.exists_terms before after
  have terms (x : H) : place.terms (place.build (before ++ place.call (calls x) :: after)) =
      .word place.opening :: front ++ conditionClause place.keyword (Condition.build
        (before.flatMap place.conditions ++ calls x ++ after.flatMap place.conditions)) ++
          back := by
    have one := split [calls x]
    rw [← conditionClause_build, List.flatten_singleton] at one
    simpa using one
  have clause := (carried_conditionClause place.keyword nonempty).within
    (.word place.opening :: front) back
  simp only [terms]
  exact clause.layOut

theorem carried_unionParts (front back : List (Bool × Term)) (keepAll : Bool) (t : H → Term) :
    Carried (fun x => (t x).parenthesized)
      fun x => unionParts (front ++ (keepAll, t x) :: back) := by
  cases front with
  | nil => exact Carried.head _ _
  | cons first rest =>
    refine ⟨unionParts (first :: rest) ++ [Term.word (unionKeyword keepAll)],
      back.flatMap behindPart, ?_⟩
    intro x
    simp [unionParts, behindPart]

theorem relocates_united (before after : List UnionCall) {call : H → UnionCall} {keepAll : Bool}
    {t : H → Term} (united : ∀ x, (call x).united = [(keepAll, t x)]) :
    Relocates (fun x => enclosedPieces "" (t x).pieces) fun x =>
      layOut (Union.build (before ++ call x :: after)).terms := by
  let paging := (Union.build (before ++ after)).paging
  have terms (x : H) : (Union.build (before ++ call x :: after)).terms =
      [] ++ unionParts (before.flatMap UnionCall.united ++
        (keepAll, t x) :: after.flatMap UnionCall.united) ++ paging.terms := by
    have one := united x
    have given : (call x).orderItems = [] ∧ (call x).limits = [] ∧ (call x).offsets = [] := by
      cases kind : call x <;> simp [kind, UnionCall.united] at one <;> exact ⟨rfl, rfl, rfl⟩
    obtain ⟨orders, limits, offsets⟩ := given
    simp [paging, Union.build_eq, Union.terms, one, orders, limits, offsets]
  have part := (carried_unionParts (before.flatMap UnionCall.united)
    (after.flatMap UnionCall.united) keepAll t).within [] paging.terms
  simp only [terms, ← Term.pieces_parenthesized]
  exact part.layOut

end BoundSql
