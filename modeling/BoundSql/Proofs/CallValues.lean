import BoundSql.Program.Build
import BoundSql.Proofs.ClauseValues
import BoundSql.Proofs.Predicates

/-! # What a call adds to the clauses

A call adds the values that it binds to those of their clauses, behind the ones
that are there, and leaves the other clauses alone.  So after a row of calls each
clause of a condition, a join, a select or a union holds the values that the trace
has for it. -/
set_option autoImplicit false
namespace BoundSql

def Predicate.values (p : Option Predicate) : List Value :=
  (p.map Predicate.term).toList.flatMap Term.slots

theorem Condition.valuesIn_add (c : Condition) (p : Option Predicate) (part : ConditionClause) :
    (c.add p).valuesIn part =
      c.valuesIn part ++ valuesAt part (tagged .own (Predicate.values p)) := by
  cases part with
  | own => simp [add, valuesIn, Predicate.values]
  | chain => simp [add, valuesIn]

theorem values_rowPredicate (parts : List Term) :
    Predicate.values (some (rowPredicate parts)) = parts.flatMap Term.slots := by
  simp [Predicate.values, rowPredicate, Predicate.term]

/-- What stands in for an empty list binds nothing, not even the left side. -/
theorem values_memberPredicate? (left : Term) (operator : String) (values : List Term) :
    Predicate.values (memberPredicate? left operator values) = memberSlots left values := by
  rw [memberPredicate?, memberSlots]
  by_cases empty : values.isEmpty = true
  · rw [if_pos empty, if_pos empty]
    split
    · rfl
    · split <;> rfl
  · rw [if_neg empty, if_neg empty, values_rowPredicate]
    simp

theorem PredicateTail.values_predicate? (tail : PredicateTail) (left : Term) :
    Predicate.values (tail.predicate? left) = tail.slots left := by
  cases tail with
  | unfinished => rfl
  | compare operator right =>
    cases right with
    | none => rfl
    | some right =>
      rw [predicate?, Option.map_some, values_rowPredicate]
      simp [slots]
  | member operator right =>
    cases right with
    | none => rfl
    | some right =>
      cases right with
      | values ts => exact values_memberPredicate? left operator.text (ts.map Term.arg)
      | raws ts => exact values_memberPredicate? left operator.text (ts.map Term.raw)
      | field t =>
        rw [predicate?, values_rowPredicate]
        simp [slots]
  | isNull =>
    rw [predicate?, values_rowPredicate]
    simp [slots]
  | isNotNull =>
    rw [predicate?, values_rowPredicate]
    simp [slots]

theorem Condition.valuesIn_addNot (c inner : Condition) (part : ConditionClause) :
    (c.addNot inner).valuesIn part =
      c.valuesIn part ++ valuesAt part (tagged .own inner.values) := by
  rw [addNot]
  split
  · rename_i empty
    simp [inner.values_of_isEmpty empty]
  · cases part with
    | own => simp [valuesIn, inner.slots_terms]
    | chain => simp [valuesIn]

theorem Condition.valuesIn_addChained (c inner : Condition) (connective : Connective)
    (part : ConditionClause) :
    (c.addChained connective inner).valuesIn part =
      c.valuesIn part ++ valuesAt part (tagged .chain inner.values) := by
  rw [addChained]
  split
  · rename_i empty
    simp [inner.values_of_isEmpty empty]
  · cases part with
    | own => simp [valuesIn]
    | chain => simp [valuesIn, inner.slots_terms]

section Selects
variable (s : Select) (clause : SelectClause)

theorem Select.valuesIn_addDistinct (ts : List Term) :
    (s.addDistinct ts).valuesIn clause =
      s.valuesIn clause ++ valuesAt clause (tagged .distinct (ts.flatMap Term.slots)) := by
  cases clause <;> simp [addDistinct, valuesIn]

theorem Select.valuesIn_addColumns (ts : List Term) :
    (s.addColumns ts).valuesIn clause =
      s.valuesIn clause ++ valuesAt clause (tagged .columns (ts.flatMap Term.slots)) := by
  cases clause <;> simp [addColumns, valuesIn]

theorem Select.valuesIn_addSources (ts : List Term) :
    (s.addSources ts).valuesIn clause =
      s.valuesIn clause ++ valuesAt clause (tagged .sources (ts.flatMap Term.slots)) := by
  cases clause <;> simp [addSources, valuesIn]

theorem Select.valuesIn_addJoin (j : Join) :
    (s.addJoin j).valuesIn clause =
      s.valuesIn clause ++ valuesAt clause (tagged .joins j.toTerm.slots) := by
  cases clause <;> simp [addJoin, valuesIn]

theorem Select.valuesIn_addGroupBy (ts : List Term) :
    (s.addGroupBy ts).valuesIn clause =
      s.valuesIn clause ++ valuesAt clause (tagged .groupBy (ts.flatMap Term.slots)) := by
  cases clause <;> simp [addGroupBy, valuesIn]

theorem Select.valuesIn_addOrder (column : Term) (words : List OrderWord) :
    ({ s with paging := s.paging.addOrder column words } : Select).valuesIn clause =
      s.valuesIn clause ++ valuesAt clause (tagged .orderBy column.slots) := by
  cases clause <;> simp [valuesIn, Paging.values_addOrder]

theorem Select.valuesIn_filter {c : Condition} {trace : List (ConditionClause × Value)}
    (grown : ∀ part, c.valuesIn part = s.filter.valuesIn part ++ valuesAt part trace) :
    ({ s with filter := c } : Select).valuesIn clause =
      s.valuesIn clause ++ valuesAt clause (relabel .filter trace) := by
  refine grown_relabel Select.valuesIn (fun _ _ equal => SelectClause.filter.inj equal) ?_ ?_ clause
  · exact grown
  · intro other differs
    cases other with
    | filter part => exact absurd rfl (differs part)
    | _ => rfl

theorem Select.valuesIn_having {c : Condition} {trace : List (ConditionClause × Value)}
    (grown : ∀ part, c.valuesIn part = s.having.valuesIn part ++ valuesAt part trace) :
    ({ s with having := c } : Select).valuesIn clause =
      s.valuesIn clause ++ valuesAt clause (relabel .having trace) := by
  refine grown_relabel Select.valuesIn (fun _ _ equal => SelectClause.having.inj equal) ?_ ?_ clause
  · exact grown
  · intro other differs
    cases other with
    | having part => exact absurd rfl (differs part)
    | _ => rfl

end Selects

theorem Join.valuesIn_on (j : Join) (clause : JoinClause) {c : Condition}
    {trace : List (ConditionClause × Value)}
    (grown : ∀ part, c.valuesIn part = j.on.valuesIn part ++ valuesAt part trace) :
    ({ j with on := c } : Join).valuesIn clause =
      j.valuesIn clause ++ valuesAt clause (relabel .on trace) := by
  refine grown_relabel Join.valuesIn (fun _ _ equal => JoinClause.on.inj equal) ?_ ?_ clause
  · exact grown
  · intro other differs
    cases other with
    | on part => exact absurd rfl (differs part)
    | _ => rfl

theorem Join.valuesIn_addUsing (j : Join) (clause : JoinClause) (ts : List Term) :
    ({ j with usingColumns := j.usingColumns ++ ts } : Join).valuesIn clause =
      j.valuesIn clause ++ valuesAt clause (tagged .usingColumns (ts.flatMap Term.slots)) := by
  cases clause <;> simp [valuesIn]

theorem Union.valuesIn_addOrder (u : Union) (clause : UnionClause) (column : Term)
    (words : List OrderWord) :
    ({ u with paging := u.paging.addOrder column words } : Union).valuesIn clause =
      u.valuesIn clause ++ valuesAt clause (tagged .orderBy column.slots) := by
  cases clause <;> simp [valuesIn, Paging.values_addOrder]

theorem Union.valuesIn_addPart (u : Union) (clause : UnionClause) (keepAll : Bool) (part : Term) :
    (u.addPart keepAll part).valuesIn clause =
      u.valuesIn clause ++ valuesAt clause (tagged .parts part.slots) := by
  have keyword : (if u.parts.isEmpty then [] else [Term.word (unionKeyword keepAll)]).flatMap
      Term.slots = [] := by
    cases u.parts.isEmpty <;> rfl
  cases clause with
  | parts => simp only [addPart, valuesIn, List.flatMap_append, keyword]; simp
  | orderBy => simp [addPart, valuesIn]

section Inner

theorem Condition.values_eq_arrange {c : Condition} {trace : List (ConditionClause × Value)}
    (grown : ∀ part, c.valuesIn part = Condition.valuesIn part {} ++ valuesAt part trace) :
    c.values = arrange conditionOrder trace := by
  have fresh : ∀ part, Condition.valuesIn part {} = [] := by
    intro part
    cases part <;> rfl
  simp only [values, arrange, grown, fresh, List.nil_append]

theorem Join.slots_eq_arrange {j start : Join} {trace : List (JoinClause × Value)}
    (target : j.target = start.target) (fresh : ∀ clause, start.valuesIn clause = [])
    (grown : ∀ clause, j.valuesIn clause = start.valuesIn clause ++ valuesAt clause trace) :
    j.toTerm.slots = start.target.slots ++ arrange joinOrder trace := by
  rw [j.slots_toTerm, target, arrange]
  simp only [grown, fresh, List.nil_append]

theorem Join.valuesIn_fresh (kind : JoinKind) (lateral : Bool) (target : Term)
    (clause : JoinClause) : Join.valuesIn clause { kind, lateral, target } = [] := by
  cases clause with
  | on part => cases part <;> rfl
  | usingColumns => rfl

theorem Select.valuesIn_fresh (clause : SelectClause) : Select.valuesIn clause {} = [] := by
  cases clause with
  | filter part => cases part <;> rfl
  | having part => cases part <;> rfl
  | _ => rfl

theorem Select.slots_eq_arrange {s : Select} {trace : List (SelectClause × Value)}
    {hasSource : Bool} (source : s.sources.isEmpty = !hasSource)
    (grown : ∀ clause, s.valuesIn clause = Select.valuesIn clause {} ++ valuesAt clause trace) :
    s.toTerm.slots = arrange (selectOrder hasSource) trace := by
  rw [s.slots_toTerm, source, Bool.not_not, arrange]
  simp only [grown, Select.valuesIn_fresh, List.nil_append]

theorem Union.slots_eq_arrange {u : Union} {trace : List (UnionClause × Value)}
    (grown : ∀ clause, u.valuesIn clause = Union.valuesIn clause {} ++ valuesAt clause trace) :
    u.toTerm.slots = arrange unionOrder trace := by
  have fresh : ∀ clause, Union.valuesIn clause {} = [] := by
    intro clause
    cases clause <;> rfl
  rw [toTerm, Term.slots_nested, u.slots_terms, arrange]
  simp only [grown, fresh, List.nil_append]

theorem JoinCall.target_applyAll (ties : List JoinCall) (j : Join) :
    (JoinCall.applyAll ties j).target = j.target := by
  induction ties generalizing j with
  | nil => rfl
  | cons call rest ih =>
    rw [applyAll, ih]
    cases call <;> rfl

theorem SelectCall.sources_apply (call : SelectCall) (s : Select) :
    (call.apply s).sources.isEmpty = (s.sources.isEmpty && !call.isSource) := by
  cases call with
  | sources ts =>
    rw [apply, Select.addSources, isSource, Bool.not_not]
    cases s.sources <;> rfl
  | sourceSelect calls name => simp [apply, Select.addSources, isSource]
  | sourceValues rows name => simp [apply, Select.addSources, isSource]
  | _ => simp [apply, Select.addDistinct, Select.addColumns, Select.addJoin, Select.addGroupBy,
      isSource]

theorem SelectCall.sources_applyAll (calls : List SelectCall) (s : Select) :
    (SelectCall.applyAll calls s).sources.isEmpty =
      (s.sources.isEmpty && !calls.any SelectCall.isSource) := by
  induction calls generalizing s with
  | nil => simp [applyAll]
  | cons call rest ih => simp [applyAll, ih, call.sources_apply, Bool.and_assoc]

end Inner

theorem ConditionCall.valuesIn_plain (call : ConditionCall) (c : Condition)
    (part : ConditionClause) {values : List Value} (plain : call.isPlain = true)
    (traced : call.trace = tagged .own values) (bound : Predicate.values call.predicate? = values) :
    (call.apply c).valuesIn part = c.valuesIn part ++ valuesAt part call.trace := by
  rw [call.apply_plain c plain, c.valuesIn_add, bound, traced]

mutual

/-- One call adds what it binds, clause by clause. -/
theorem ConditionCall.valuesIn_apply (call : ConditionCall) (c : Condition)
    (part : ConditionClause) :
    (call.apply c).valuesIn part = c.valuesIn part ++ valuesAt part call.trace := by
  cases call with
  | inSelect left calls =>
    have inner := Select.slots_eq_arrange (SelectCall.sources_applyAll calls {})
      (SelectCall.valuesIn_applyAll calls {})
    apply ConditionCall.valuesIn_plain _ c part rfl rfl
    rw [ConditionCall.predicate?, values_rowPredicate]
    simp [Select.build, inner]
  | stepwiseSelect left operator calls =>
    have inner := Select.slots_eq_arrange (SelectCall.sources_applyAll calls {})
      (SelectCall.valuesIn_applyAll calls {})
    apply ConditionCall.valuesIn_plain _ c part rfl rfl
    rw [ConditionCall.predicate?, values_rowPredicate]
    simp [Select.build, inner]
  | not inner =>
    have values := Condition.values_eq_arrange (ConditionCall.valuesIn_applyAll inner {})
    rw [ConditionCall.apply, Condition.valuesIn_addNot, values, ConditionCall.trace]
  | chained connective inner =>
    have values := Condition.values_eq_arrange (ConditionCall.valuesIn_applyAll inner {})
    rw [ConditionCall.apply, Condition.valuesIn_addChained, values, ConditionCall.trace]
  | mode connective =>
    rw [ConditionCall.trace, valuesAt_nil, List.append_nil]
    cases part <;> rfl
  | isIn left values =>
    exact ConditionCall.valuesIn_plain _ c part rfl rfl (values_memberPredicate? left _ _)
  | isInRaw left values =>
    exact ConditionCall.valuesIn_plain _ c part rfl rfl (values_memberPredicate? left _ _)
  | notIn left values =>
    exact ConditionCall.valuesIn_plain _ c part rfl rfl (values_memberPredicate? left _ _)
  | notInRaw left values =>
    exact ConditionCall.valuesIn_plain _ c part rfl rfl (values_memberPredicate? left _ _)
  | stepwise left tail =>
    exact ConditionCall.valuesIn_plain _ c part rfl rfl (tail.values_predicate? left.term)
  | rawText sql =>
    have traceless : (ConditionCall.rawText sql).trace = tagged .own [] := rfl
    exact ConditionCall.valuesIn_plain _ c part rfl traceless rfl
  | _ =>
    apply ConditionCall.valuesIn_plain _ c part rfl rfl
    rw [ConditionCall.predicate?, values_rowPredicate]
    simp

theorem ConditionCall.valuesIn_applyAll (calls : List ConditionCall) (c : Condition)
    (part : ConditionClause) :
    (ConditionCall.applyAll calls c).valuesIn part =
      c.valuesIn part ++ valuesAt part (ConditionCall.traceAll calls) := by
  cases calls with
  | nil => simp [ConditionCall.applyAll, ConditionCall.traceAll]
  | cons call rest =>
    rw [ConditionCall.applyAll, ConditionCall.valuesIn_applyAll rest,
      ConditionCall.valuesIn_apply call, ConditionCall.traceAll, valuesAt_append, List.append_assoc]

theorem SelectCall.valuesIn_apply (call : SelectCall) (s : Select) (clause : SelectClause) :
    (call.apply s).valuesIn clause = s.valuesIn clause ++ valuesAt clause call.trace := by
  cases call with
  | distinct on => exact s.valuesIn_addDistinct clause on.flatten
  | columns ts => exact s.valuesIn_addColumns clause ts
  | columnSelect calls name =>
    have inner := Select.slots_eq_arrange (SelectCall.sources_applyAll calls {})
      (SelectCall.valuesIn_applyAll calls {})
    rw [SelectCall.apply, s.valuesIn_addColumns, List.flatMap_singleton, slots_aliased, inner,
      SelectCall.trace]
  | sources ts => exact s.valuesIn_addSources clause ts
  | sourceSelect calls name =>
    have inner := Select.slots_eq_arrange (SelectCall.sources_applyAll calls {})
      (SelectCall.valuesIn_applyAll calls {})
    rw [SelectCall.apply, s.valuesIn_addSources, List.flatMap_singleton, slots_aliased, inner,
      SelectCall.trace]
  | sourceValues rows name =>
    rw [SelectCall.apply, s.valuesIn_addSources, List.flatMap_singleton, slots_aliased,
      slots_valuesTable, SelectCall.trace]
  | join kind target ties =>
    have tied := Join.slots_eq_arrange (JoinCall.target_applyAll ties _)
      (Join.valuesIn_fresh kind false target) (JoinCall.valuesIn_applyAll ties _)
    rw [SelectCall.apply, s.valuesIn_addJoin, tied, SelectCall.trace]
  | joinSelect kind lateral calls name ties =>
    have inner := Select.slots_eq_arrange (SelectCall.sources_applyAll calls {})
      (SelectCall.valuesIn_applyAll calls {})
    have tied := Join.slots_eq_arrange (JoinCall.target_applyAll ties _)
      (Join.valuesIn_fresh kind lateral (aliased (SelectCall.applyAll calls {}).toTerm name))
      (JoinCall.valuesIn_applyAll ties _)
    rw [SelectCall.apply, s.valuesIn_addJoin, tied, slots_aliased, inner, SelectCall.trace]
  | joinUnion kind calls name ties =>
    have inner := Union.slots_eq_arrange (UnionCall.valuesIn_applyAll calls {})
    have tied := Join.slots_eq_arrange (JoinCall.target_applyAll ties _)
      (Join.valuesIn_fresh kind false (aliased (UnionCall.applyAll calls {}).toTerm name))
      (JoinCall.valuesIn_applyAll ties _)
    rw [SelectCall.apply, s.valuesIn_addJoin, tied, slots_aliased, inner, SelectCall.trace]
  | filter condition =>
    exact s.valuesIn_filter clause (ConditionCall.valuesIn_applyAll condition s.filter)
  | groupBy ts => exact s.valuesIn_addGroupBy clause ts
  | having condition =>
    exact s.valuesIn_having clause (ConditionCall.valuesIn_applyAll condition s.having)
  | orderBy column words => exact s.valuesIn_addOrder clause column words
  | limit n =>
    rw [SelectCall.trace, valuesAt_nil, List.append_nil]
    cases clause <;> rfl
  | offset n =>
    rw [SelectCall.trace, valuesAt_nil, List.append_nil]
    cases clause <;> rfl

theorem SelectCall.valuesIn_applyAll (calls : List SelectCall) (s : Select)
    (clause : SelectClause) :
    (SelectCall.applyAll calls s).valuesIn clause =
      s.valuesIn clause ++ valuesAt clause (SelectCall.traceAll calls) := by
  cases calls with
  | nil => simp [SelectCall.applyAll, SelectCall.traceAll]
  | cons call rest =>
    rw [SelectCall.applyAll, SelectCall.valuesIn_applyAll rest,
      SelectCall.valuesIn_apply call, SelectCall.traceAll, valuesAt_append, List.append_assoc]

theorem JoinCall.valuesIn_apply (call : JoinCall) (j : Join) (clause : JoinClause) :
    (call.apply j).valuesIn clause = j.valuesIn clause ++ valuesAt clause call.trace := by
  cases call with
  | on condition => exact j.valuesIn_on clause (ConditionCall.valuesIn_applyAll condition j.on)
  | usingColumns ts => exact j.valuesIn_addUsing clause ts

theorem JoinCall.valuesIn_applyAll (ties : List JoinCall) (j : Join) (clause : JoinClause) :
    (JoinCall.applyAll ties j).valuesIn clause =
      j.valuesIn clause ++ valuesAt clause (JoinCall.traceAll ties) := by
  cases ties with
  | nil => simp [JoinCall.applyAll, JoinCall.traceAll]
  | cons call rest =>
    rw [JoinCall.applyAll, JoinCall.valuesIn_applyAll rest, JoinCall.valuesIn_apply call,
      JoinCall.traceAll, valuesAt_append, List.append_assoc]

theorem UnionCall.valuesIn_apply (call : UnionCall) (u : Union) (clause : UnionClause) :
    (call.apply u).valuesIn clause = u.valuesIn clause ++ valuesAt clause call.trace := by
  cases call with
  | select keepAll calls =>
    have inner := Select.slots_eq_arrange (SelectCall.sources_applyAll calls {})
      (SelectCall.valuesIn_applyAll calls {})
    rw [UnionCall.apply, u.valuesIn_addPart, inner, UnionCall.trace]
  | union keepAll calls =>
    have inner := Union.slots_eq_arrange (UnionCall.valuesIn_applyAll calls {})
    rw [UnionCall.apply, u.valuesIn_addPart, inner, UnionCall.trace]
  | orderBy column words => exact u.valuesIn_addOrder clause column words
  | limit n =>
    rw [UnionCall.trace, valuesAt_nil, List.append_nil]
    cases clause <;> rfl
  | offset n =>
    rw [UnionCall.trace, valuesAt_nil, List.append_nil]
    cases clause <;> rfl

theorem UnionCall.valuesIn_applyAll (calls : List UnionCall) (u : Union) (clause : UnionClause) :
    (UnionCall.applyAll calls u).valuesIn clause =
      u.valuesIn clause ++ valuesAt clause (UnionCall.traceAll calls) := by
  cases calls with
  | nil => simp [UnionCall.applyAll, UnionCall.traceAll]
  | cons call rest =>
    rw [UnionCall.applyAll, UnionCall.valuesIn_applyAll rest, UnionCall.valuesIn_apply call,
      UnionCall.traceAll, valuesAt_append, List.append_assoc]

end

theorem slots_select (calls : List SelectCall) :
    (SelectCall.applyAll calls {}).toTerm.slots = selectArguments calls :=
  Select.slots_eq_arrange (SelectCall.sources_applyAll calls {})
    (SelectCall.valuesIn_applyAll calls {})

theorem slots_join (kind : JoinKind) (lateral : Bool) (target : Term) (ties : List JoinCall) :
    (JoinCall.applyAll ties { kind, lateral, target }).toTerm.slots =
      target.slots ++ joinArguments ties :=
  Join.slots_eq_arrange (JoinCall.target_applyAll ties _) (Join.valuesIn_fresh kind lateral target)
    (JoinCall.valuesIn_applyAll ties _)

end BoundSql
