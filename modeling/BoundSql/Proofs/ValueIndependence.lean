import BoundSql.Proofs.FilledClauses

/-! # The text does not depend on the values

A statement is filled from a form when each of its terms is.  Calls whose places
are filled keep a statement so, through conditions, joins, sub-selects and unions
of any depth.  The text of a query therefore is the same for all fillings of a
form, and each argument is what was put in its place. -/
set_option autoImplicit false
namespace BoundSql

open List (Forall₂)

variable {f : Filling}

structure OrderItem.Filled (f : Filling) (form item : OrderItem) : Prop where
  column : Term.Filled f form.column item.column
  direction : item.direction = form.direction
  nulls : item.nulls = form.nulls

theorem OrderItem.Filled.of {form column : Term} (h : Term.Filled f form column)
    (words : List OrderWord) :
    OrderItem.Filled f (OrderItem.of form words) (OrderItem.of column words) := by
  have said : ∀ form item : OrderItem, OrderItem.Filled f form item →
      OrderItem.Filled f (words.foldl OrderItem.say form) (words.foldl OrderItem.say item) := by
    induction words with
    | nil => exact fun _ _ k => k
    | cons word rest ih =>
      intro form item k
      refine ih (form.say word) (item.say word) ?_
      cases word with
      | asc => exact ⟨k.column, rfl, k.nulls⟩
      | desc => exact ⟨k.column, rfl, k.nulls⟩
      | nullsFirst => exact ⟨k.column, k.direction, rfl⟩
      | nullsLast => exact ⟨k.column, k.direction, rfl⟩
  exact said { column := form } { column } ⟨h, rfl, rfl⟩

theorem OrderItem.Filled.toTerm {form item : OrderItem} (h : OrderItem.Filled f form item) :
    Term.Filled f form.toTerm item.toTerm := by
  have words : ∀ ws : List String, FilledEach f (ws.map .word) (ws.map .word) := by
    intro ws
    induction ws with
    | nil => exact .nil
    | cons w rest ih => exact .cons (.word w) ih
  rw [OrderItem.toTerm, OrderItem.toTerm, h.direction, h.nulls]
  exact .nested (.cons h.column (words _))

structure Paging.Filled (f : Filling) (form p : Paging) : Prop where
  order : Forall₂ (OrderItem.Filled f) form.order p.order
  limit : p.limit = form.limit
  offset : p.offset = form.offset

theorem Paging.Filled.addOrder {form p : Paging} (h : Paging.Filled f form p)
    {column column' : Term} (k : Term.Filled f column column') (words : List OrderWord) :
    Paging.Filled f (form.addOrder column words) (p.addOrder column' words) :=
  ⟨List.rel_append h.order (.cons (.of k words) .nil), h.limit, h.offset⟩

theorem Paging.Filled.terms {form p : Paging} (h : Paging.Filled f form p) :
    FilledEach f form.terms p.terms := by
  have items : FilledEach f (form.order.map OrderItem.toTerm) (p.order.map OrderItem.toTerm) :=
    List.rel_map (fun _ _ k => k.toTerm) h.order
  rw [Paging.terms, Paging.terms, h.limit, h.offset]
  exact ((listClause_filled "order by" items).append (numberClause_filled "limit" _)).append
    (numberClause_filled "offset" _)

structure Join.Filled (f : Filling) (form j : Join) : Prop where
  kind : j.kind = form.kind
  lateral : j.lateral = form.lateral
  target : Term.Filled f form.target j.target
  on : Condition.Filled f form.on j.on
  usingColumns : FilledEach f form.usingColumns j.usingColumns

theorem Join.Filled.start (kind : JoinKind) (lateral : Bool) {form target : Term}
    (h : Term.Filled f form target) :
    Join.Filled f { kind, lateral, target := form } { kind, lateral, target } :=
  ⟨rfl, rfl, h, .empty, .nil⟩

theorem Join.Filled.toTerm {form j : Join} (h : Join.Filled f form j) :
    Term.Filled f form.toTerm j.toTerm := by
  have lateral : FilledEach f (if form.lateral then [.word "lateral"] else [])
      (if form.lateral then [.word "lateral"] else []) := by
    cases form.lateral with
    | false => exact .nil
    | true => exact .cons (.word "lateral") .nil
  have kind : FilledEach f [.word form.kind.text] [.word form.kind.text] := .cons (.word _) .nil
  rw [Join.toTerm, Join.toTerm, h.kind, h.lateral]
  exact .nested ((((kind.append lateral).append (.cons h.target .nil)).append
    (conditionClause_filled "on" h.on)).append (parenClause_filled "using" h.usingColumns))

abbrev JoinsFilled (f : Filling) : List Join → List Join → Prop := Forall₂ (Join.Filled f)

theorem JoinsFilled.terms {forms joins : List Join} (h : JoinsFilled f forms joins) :
    FilledEach f (forms.map Join.toTerm) (joins.map Join.toTerm) :=
  List.rel_map (fun _ _ k => k.toTerm) h

structure Select.Filled (f : Filling) (form s : Select) : Prop where
  distinct : Option.Rel (FilledEach f) form.distinct s.distinct
  columns : FilledEach f form.columns s.columns
  sources : FilledEach f form.sources s.sources
  joins : JoinsFilled f form.joins s.joins
  filter : Condition.Filled f form.filter s.filter
  groupBy : FilledEach f form.groupBy s.groupBy
  having : Condition.Filled f form.having s.having
  paging : Paging.Filled f form.paging s.paging

theorem Select.Filled.empty : Select.Filled f {} {} :=
  ⟨.none, .nil, .nil, .nil, .empty, .nil, .empty, ⟨.nil, rfl, rfl⟩⟩

theorem Select.Filled.addDistinct {form s : Select} (h : Select.Filled f form s)
    {forms ts : List Term} (on : FilledEach f forms ts) :
    Select.Filled f (form.addDistinct forms) (s.addDistinct ts) := by
  have before : FilledEach f (form.distinct.getD []) (s.distinct.getD []) := by
    have k := h.distinct
    generalize form.distinct = d at k ⊢
    generalize s.distinct = e at k ⊢
    cases k with
    | none => exact .nil
    | some on => exact on
  exact { h with distinct := .some (before.append on) }

theorem Select.Filled.terms {form s : Select} (h : Select.Filled f form s) :
    FilledEach f form.terms s.terms := by
  have distinct : FilledEach f form.distinctTerms s.distinctTerms := by
    have k := h.distinct
    rw [Select.distinctTerms, Select.distinctTerms]
    generalize form.distinct = d at k ⊢
    generalize s.distinct = e at k ⊢
    cases k with
    | none => exact .nil
    | some on => exact .cons (.word "distinct") (parenClause_filled "on" on)
  have columns : FilledEach f (if form.columns.isEmpty then [] else [.commaList form.columns])
      (if s.columns.isEmpty then [] else [.commaList s.columns]) := by
    rw [h.columns.isEmpty]
    cases form.columns.isEmpty with
    | true => exact .nil
    | false => exact .cons (.group comma h.columns) .nil
  have sources : FilledEach f form.sourceTerms s.sourceTerms := by
    rw [Select.sourceTerms, Select.sourceTerms, h.sources.isEmpty]
    cases form.sources.isEmpty with
    | true => exact .nil
    | false =>
      exact .cons (.word "from") (.cons (.group comma h.sources) h.joins.terms)
  have start : FilledEach f [.word "select"] [.word "select"] := .cons (.word "select") .nil
  exact ((((((start.append distinct).append columns).append sources).append
    (conditionClause_filled "where" h.filter)).append
    (parenClause_filled "group by" h.groupBy)).append
    (conditionClause_filled "having" h.having)).append h.paging.terms

theorem Select.Filled.toTerm {form s : Select} (h : Select.Filled f form s) :
    Term.Filled f form.toTerm s.toTerm := .nested h.terms

structure Union.Filled (f : Filling) (form u : Union) : Prop where
  parts : FilledEach f form.parts u.parts
  paging : Paging.Filled f form.paging u.paging

theorem Union.Filled.empty : Union.Filled f {} {} := ⟨.nil, ⟨.nil, rfl, rfl⟩⟩

theorem Union.Filled.addPart {form u : Union} (h : Union.Filled f form u) (keepAll : Bool)
    {part part' : Term} (k : Term.Filled f part part') :
    Union.Filled f (form.addPart keepAll part) (u.addPart keepAll part') := by
  have keyword : FilledEach f
      (if form.parts.isEmpty then [] else [.word (unionKeyword keepAll)])
      (if u.parts.isEmpty then [] else [.word (unionKeyword keepAll)]) := by
    rw [h.parts.isEmpty]
    cases form.parts.isEmpty with
    | true => exact .nil
    | false => exact .cons (.word _) .nil
  exact ⟨(h.parts.append keyword).append (.cons k.parenthesized .nil), h.paging⟩

theorem Union.Filled.terms {form u : Union} (h : Union.Filled f form u) :
    FilledEach f form.terms u.terms := h.parts.append h.paging.terms

theorem Union.Filled.toTerm {form u : Union} (h : Union.Filled f form u) :
    Term.Filled f form.toTerm u.toTerm := .nested h.terms

structure Assignment.Filled (f : Filling) (form a : Assignment) : Prop where
  columns : FilledEach f form.columns a.columns
  values : FilledEach f form.values a.values

theorem Assignment.Filled.toTerm {form a : Assignment} (h : Assignment.Filled f form a) :
    Term.Filled f form.toTerm a.toTerm := by
  have target : Term.Filled f form.target a.target := by
    rw [Assignment.target, Assignment.target, h.columns.length_eq]
    by_cases several : 1 < a.columns.length
    · rw [if_pos several, if_pos several]
      exact .paren "" comma h.columns
    · rw [if_neg several, if_neg several]
      exact .group comma h.columns
  have source : Term.Filled f form.source a.source := by
    rw [Assignment.source, Assignment.source, h.values.length_eq]
    by_cases several : 1 < a.values.length
    · rw [if_pos several, if_pos several]
      exact .paren "row" comma h.values
    · rw [if_neg several, if_neg several]
      exact .group comma h.values
  exact .nested (.cons target (.cons (.word "=") (.cons source .nil)))

structure Update.Filled (f : Filling) (form u : Update) : Prop where
  table : Option.Rel (Term.Filled f) form.table u.table
  assignments : Forall₂ (Assignment.Filled f) form.assignments u.assignments
  sources : FilledEach f form.sources u.sources
  joins : JoinsFilled f form.joins u.joins
  filter : Condition.Filled f form.filter u.filter
  cursor : Option.Rel (Term.Filled f) form.cursor u.cursor
  returning : FilledEach f form.returning u.returning

theorem Update.Filled.empty : Update.Filled f {} {} :=
  ⟨.none, .nil, .nil, .nil, .empty, .none, .nil⟩

theorem Update.Filled.terms {form u : Update} (h : Update.Filled f form u) :
    FilledEach f form.terms u.terms := by
  have assignments : FilledEach f (form.assignments.map Assignment.toTerm)
      (u.assignments.map Assignment.toTerm) := List.rel_map (fun _ _ k => k.toTerm) h.assignments
  have start : FilledEach f [.word "update"] [.word "update"] := .cons (.word "update") .nil
  exact ((((((start.append (toList_filled h.table)).append
    (listClause_filled "set" assignments)).append (listClause_filled "from" h.sources)).append
    h.joins.terms).append (conditionClause_filled "where" h.filter)).append
    (termClause_filled "where current of" h.cursor)).append
    (listClause_filled "returning" h.returning)

inductive ConflictTarget.Filled (f : Filling) : ConflictTarget → ConflictTarget → Prop
  | columns {forms ts : List Term} (h : FilledEach f forms ts) :
    ConflictTarget.Filled f (.columns forms) (.columns ts)
  | constraint {form name : Term} (h : Term.Filled f form name) :
    ConflictTarget.Filled f (.constraint form) (.constraint name)

inductive ConflictAction.Filled (f : Filling) : ConflictAction → ConflictAction → Prop
  | nothing : ConflictAction.Filled f .nothing .nothing
  | update {form u : Update} (h : Update.Filled f form u) :
    ConflictAction.Filled f (.update form) (.update u)

structure Conflict.Filled (f : Filling) (form c : Conflict) : Prop where
  target : ConflictTarget.Filled f form.target c.target
  filter : Condition.Filled f form.filter c.filter
  action : Option.Rel (ConflictAction.Filled f) form.action c.action

theorem Conflict.Filled.toTerm {form c : Conflict} (h : Conflict.Filled f form c) :
    Term.Filled f form.toTerm c.toTerm := by
  have target : FilledEach f form.targetTerms c.targetTerms := by
    have k := h.target
    rw [Conflict.targetTerms, Conflict.targetTerms]
    generalize form.target = d at k ⊢
    generalize c.target = e at k ⊢
    cases k with
    | columns k => exact (parenList_filled k).append (conditionClause_filled "where" h.filter)
    | constraint k => exact .cons (.word "on constraint") (.cons k .nil)
  have action : FilledEach f form.actionTerms c.actionTerms := by
    have k := h.action
    rw [Conflict.actionTerms, Conflict.actionTerms]
    generalize form.action = d at k ⊢
    generalize c.action = e at k ⊢
    cases k with
    | none => exact .nil
    | some done =>
      cases done with
      | nothing => exact .cons (.word "do nothing") .nil
      | update u => exact .cons (.word "do") (.cons (.nested u.terms) .nil)
  have start : FilledEach f [.word "on conflict"] [.word "on conflict"] := .cons (.word _) .nil
  exact .nested ((start.append target).append action)

structure Insert.Filled (f : Filling) (form i : Insert) : Prop where
  table : Option.Rel (Term.Filled f) form.table i.table
  columns : FilledEach f form.columns i.columns
  overriding : i.overriding = form.overriding
  defaultValues : i.defaultValues = form.defaultValues
  rows : Forall₂ (FilledEach f) form.rows i.rows
  select : Option.Rel (Term.Filled f) form.select i.select
  conflict : Option.Rel (Conflict.Filled f) form.conflict i.conflict
  returning : FilledEach f form.returning i.returning

theorem Insert.Filled.empty : Insert.Filled f {} {} :=
  ⟨.none, .nil, rfl, rfl, .nil, .none, .none, .nil⟩

theorem overridingTerms_filled {form i : Insert} (h : i.overriding = form.overriding) :
    FilledEach f form.overridingTerms i.overridingTerms := by
  rw [Insert.overridingTerms, Insert.overridingTerms, h]
  cases form.overriding with
  | none => exact .nil
  | some o => exact .cons (.word "overriding") (.cons (.word o.text) (.cons (.word "value") .nil))

theorem Insert.Filled.terms {form i : Insert} (h : Insert.Filled f form i) :
    FilledEach f form.terms i.terms := by
  have defaults : FilledEach f (if form.defaultValues then [.word "default values"] else [])
      (if i.defaultValues then [.word "default values"] else []) := by
    rw [h.defaultValues]
    cases form.defaultValues with
    | false => exact .nil
    | true => exact .cons (.word "default values") .nil
  have rows : FilledEach f (if form.rows.isEmpty then [] else [.word "values", rowsTerm form.rows])
      (if i.rows.isEmpty then [] else [.word "values", rowsTerm i.rows]) := by
    rw [isEmpty_of_forall₂ h.rows]
    cases form.rows.isEmpty with
    | true => exact .nil
    | false => exact .cons (.word "values") (.cons (rowsTerm_filled h.rows) .nil)
  have conflict : FilledEach f (form.conflict.map Conflict.toTerm).toList
      (i.conflict.map Conflict.toTerm).toList := by
    have k := h.conflict
    generalize form.conflict = d at k ⊢
    generalize i.conflict = e at k ⊢
    cases k with
    | none => exact .nil
    | some met => exact .cons met.toTerm .nil
  have start : FilledEach f [.word "insert"] [.word "insert"] := .cons (.word "insert") .nil
  exact (((((((start.append (termClause_filled "into" h.table)).append
    (parenList_filled h.columns)).append (overridingTerms_filled h.overriding)).append
    defaults).append rows).append (toList_filled h.select)).append conflict).append
    (listClause_filled "returning" h.returning)

structure Delete.Filled (f : Filling) (form d : Delete) : Prop where
  table : Option.Rel (Term.Filled f) form.table d.table
  filter : Condition.Filled f form.filter d.filter
  returning : FilledEach f form.returning d.returning

theorem Delete.Filled.empty : Delete.Filled f {} {} := ⟨.none, .empty, .nil⟩

theorem Delete.Filled.terms {form d : Delete} (h : Delete.Filled f form d) :
    FilledEach f form.terms d.terms := by
  have start : FilledEach f [.word "delete from"] [.word "delete from"] := .cons (.word _) .nil
  exact ((start.append (toList_filled h.table)).append
    (conditionClause_filled "where" h.filter)).append (listClause_filled "returning" h.returning)

theorem Operand.fill_filled (operand : Operand) :
    Term.Filled f operand.term (operand.fill f).term := by
  cases operand with
  | field t => exact t.fill_filled
  | value t => exact t.fillValue_filled

theorem RightSide.fill_filled (right : RightSide) :
    Term.Filled f right.term (right.fill f).term := by
  cases right with
  | value t => exact t.fillValue_filled
  | raw t => exact t.fillRaw_filled
  | field t => exact t.fillRaw_filled

theorem PredicateTail.addTo_filled (tail : PredicateTail) {left left' : Term}
    (hleft : Term.Filled f left left') {form c : Condition} (h : Condition.Filled f form c) :
    Condition.Filled f (tail.addTo left form) ((tail.fill f).addTo left' c) := by
  cases tail with
  | unfinished => exact h
  | compare operator right =>
    cases right with
    | none => exact h
    | some right =>
      exact h.addPredicate (.cons hleft (.cons (.word _) (.cons right.fill_filled .nil)))
  | member operator right =>
    cases right with
    | none => exact h
    | some right =>
      cases right with
      | values ts => exact h.addMembership hleft _ (.args ts)
      | raws ts => exact h.addMembership hleft _ (.raws ts)
      | field t =>
        exact h.addPredicate (.cons hleft (.cons (.word _) (.cons t.fillRaw_filled .nil)))
  | isNull => exact h.addPredicate (.cons hleft (.cons (.word _) .nil))
  | isNotNull => exact h.addPredicate (.cons hleft (.cons (.word _) .nil))

theorem Select.Filled.addSources {form s : Select} (h : Select.Filled f form s)
    {forms ts : List Term} (k : FilledEach f forms ts) :
    Select.Filled f (form.addSources forms) (s.addSources ts) :=
  { h with sources := h.sources.append k }

theorem Select.Filled.addColumns {form s : Select} (h : Select.Filled f form s)
    {forms ts : List Term} (k : FilledEach f forms ts) :
    Select.Filled f (form.addColumns forms) (s.addColumns ts) :=
  { h with columns := h.columns.append k }

theorem Select.Filled.addJoin {form s : Select} (h : Select.Filled f form s) {formJoin j : Join}
    (k : Join.Filled f formJoin j) : Select.Filled f (form.addJoin formJoin) (s.addJoin j) :=
  { h with joins := List.rel_append h.joins (.cons k .nil) }

theorem fillEach_flatten (ts : List (List Term)) :
    FilledEach f ts.flatten (ts.map (Term.fillEach f)).flatten := by
  induction ts with
  | nil => exact .nil
  | cons t rest ih => exact (Term.fillEach_filled t).append ih

mutual

theorem ConditionCall.apply_filled (call : ConditionCall) {form c : Condition}
    (h : Condition.Filled f form c) :
    Condition.Filled f (call.apply form) ((call.fill f).apply c) := by
  cases call with
  | compare left operator value =>
    exact h.addPredicate
      (.cons left.fill_filled (.cons (.word _) (.cons value.fillValue_filled .nil)))
  | compareRaw left operator value =>
    exact h.addPredicate
      (.cons left.fill_filled (.cons (.word _) (.cons value.fillRaw_filled .nil)))
  | between left low high =>
    exact h.addPredicate (.cons left.fill_filled (.cons (.word _)
      (.cons low.fillValue_filled (.cons (.word _) (.cons high.fillValue_filled .nil)))))
  | notBetween left low high =>
    exact h.addPredicate (.cons left.fill_filled (.cons (.word _)
      (.cons low.fillValue_filled (.cons (.word _) (.cons high.fillValue_filled .nil)))))
  | isIn left values => exact h.addMembership left.fill_filled "in" (.args values)
  | isInRaw left values => exact h.addMembership left.fill_filled "in" (.raws values)
  | notIn left values => exact h.addMembership left.fill_filled "not in" (.args values)
  | notInRaw left values => exact h.addMembership left.fill_filled "not in" (.raws values)
  | inSelect left select =>
    have inner := SelectCall.applyAll_filled select .empty
    exact h.addPredicate
      (.cons left.fill_filled (.cons (.word _) (.cons inner.toTerm.parenthesized .nil)))
  | isNull left => exact h.addPredicate (.cons left.fill_filled (.cons (.word _) .nil))
  | isNotNull left => exact h.addPredicate (.cons left.fill_filled (.cons (.word _) .nil))
  | rawText sql => exact h.addText sql
  | stepwise left tail => exact tail.addTo_filled left.fill_filled h
  | stepwiseSelect left operator select =>
    have inner := SelectCall.applyAll_filled select .empty
    exact h.addPredicate
      (.cons left.fill_filled (.cons (.word _) (.cons inner.toTerm.parenthesized .nil)))
  | not inner => exact h.addNot (ConditionCall.applyAll_filled inner .empty)
  | chained connective inner =>
    exact h.addChained connective (ConditionCall.applyAll_filled inner .empty)
  | mode connective => exact ⟨h.predicates, rfl, h.chain⟩

theorem ConditionCall.applyAll_filled (calls : List ConditionCall) {form c : Condition}
    (h : Condition.Filled f form c) :
    Condition.Filled f (ConditionCall.applyAll calls form)
      (ConditionCall.applyAll (ConditionCall.fillAll f calls) c) := by
  cases calls with
  | nil => exact h
  | cons call rest =>
    exact ConditionCall.applyAll_filled rest (ConditionCall.apply_filled call h)

theorem SelectCall.apply_filled (call : SelectCall) {form s : Select}
    (h : Select.Filled f form s) : Select.Filled f (call.apply form) ((call.fill f).apply s) := by
  cases call with
  | distinct on => exact h.addDistinct (fillEach_flatten on)
  | columns columns => exact h.addColumns (Term.fillEach_filled columns)
  | columnSelect select name =>
    have inner := SelectCall.applyAll_filled select .empty
    exact h.addColumns (.cons (aliased_filled name inner.toTerm) .nil)
  | sources sources => exact h.addSources (Term.fillEach_filled sources)
  | sourceSelect select name =>
    have inner := SelectCall.applyAll_filled select .empty
    exact h.addSources (.cons (aliased_filled name inner.toTerm) .nil)
  | sourceValues rows name =>
    have table : Term.Filled f (valuesTable rows)
        (valuesTable (rows.map (List.map (Term.fillValue f)))) :=
      .nested (.cons (.word "values") (.cons (rowsTerm_filled (rowArgs_filled rows)) .nil))
    exact h.addSources (.cons (aliased_filled name table) .nil)
  | join kind target ties =>
    exact h.addJoin (JoinCall.applyAll_filled ties (.start kind false target.fill_filled))
  | joinSelect kind lateral select name ties =>
    have inner := SelectCall.applyAll_filled select .empty
    exact h.addJoin (JoinCall.applyAll_filled ties
      (.start kind lateral (aliased_filled name inner.toTerm)))
  | joinUnion kind union name ties =>
    have inner := UnionCall.applyAll_filled union .empty
    exact h.addJoin (JoinCall.applyAll_filled ties
      (.start kind false (aliased_filled name inner.toTerm)))
  | filter condition =>
    exact { h with filter := ConditionCall.applyAll_filled condition h.filter }
  | groupBy columns =>
    exact { h with groupBy := h.groupBy.append (Term.fillEach_filled columns) }
  | having condition =>
    exact { h with having := ConditionCall.applyAll_filled condition h.having }
  | orderBy column words => exact { h with paging := h.paging.addOrder column.fill_filled words }
  | limit n => exact { h with paging := ⟨h.paging.order, rfl, h.paging.offset⟩ }
  | offset n => exact { h with paging := ⟨h.paging.order, h.paging.limit, rfl⟩ }

theorem SelectCall.applyAll_filled (calls : List SelectCall) {form s : Select}
    (h : Select.Filled f form s) :
    Select.Filled f (SelectCall.applyAll calls form)
      (SelectCall.applyAll (SelectCall.fillAll f calls) s) := by
  cases calls with
  | nil => exact h
  | cons call rest => exact SelectCall.applyAll_filled rest (SelectCall.apply_filled call h)

theorem JoinCall.apply_filled (call : JoinCall) {form j : Join} (h : Join.Filled f form j) :
    Join.Filled f (call.apply form) ((call.fill f).apply j) := by
  cases call with
  | on condition => exact { h with on := ConditionCall.applyAll_filled condition h.on }
  | usingColumns columns =>
    exact { h with usingColumns := h.usingColumns.append (Term.fillEach_filled columns) }

theorem JoinCall.applyAll_filled (calls : List JoinCall) {form j : Join}
    (h : Join.Filled f form j) :
    Join.Filled f (JoinCall.applyAll calls form)
      (JoinCall.applyAll (JoinCall.fillAll f calls) j) := by
  cases calls with
  | nil => exact h
  | cons call rest => exact JoinCall.applyAll_filled rest (JoinCall.apply_filled call h)

theorem UnionCall.apply_filled (call : UnionCall) {form u : Union} (h : Union.Filled f form u) :
    Union.Filled f (call.apply form) ((call.fill f).apply u) := by
  cases call with
  | select keepAll select =>
    exact h.addPart keepAll (SelectCall.applyAll_filled select .empty).toTerm
  | union keepAll union =>
    exact h.addPart keepAll (UnionCall.applyAll_filled union .empty).toTerm
  | orderBy column words => exact { h with paging := h.paging.addOrder column.fill_filled words }
  | limit n => exact { h with paging := ⟨h.paging.order, rfl, h.paging.offset⟩ }
  | offset n => exact { h with paging := ⟨h.paging.order, h.paging.limit, rfl⟩ }

theorem UnionCall.applyAll_filled (calls : List UnionCall) {form u : Union}
    (h : Union.Filled f form u) :
    Union.Filled f (UnionCall.applyAll calls form)
      (UnionCall.applyAll (UnionCall.fillAll f calls) u) := by
  cases calls with
  | nil => exact h
  | cons call rest => exact UnionCall.applyAll_filled rest (UnionCall.apply_filled call h)

end

theorem foldl_filled {State Call : Type} {R : State → State → Prop} {apply : State → Call → State}
    {fill : Call → Call}
    (step : ∀ call form s, R form s → R (apply form call) (apply s (fill call)))
    (calls : List Call) {form s : State} (h : R form s) :
    R (calls.foldl apply form) ((calls.map fill).foldl apply s) := by
  induction calls generalizing form s with
  | nil => exact h
  | cons call rest ih => exact ih (step call form s h)

theorem Assignment.build_filled (columns : List Term) (calls : List AssignmentCall) :
    Assignment.Filled f (Assignment.build columns calls)
      (Assignment.build (Term.fillEach f columns) (calls.map (AssignmentCall.fill f))) := by
  refine foldl_filled ?_ calls ⟨Term.fillEach_filled columns, .nil⟩
  intro call form a h
  match call with
  | .to values => exact ⟨h.columns, h.values.append (.args values)⟩
  | .toRaw values => exact ⟨h.columns, h.values.append (.raws values)⟩
  | .select calls =>
    have inner := SelectCall.applyAll_filled (f := f) calls .empty
    exact ⟨h.columns, h.values.append (.cons inner.toTerm.parenthesized .nil)⟩

theorem Update.build_filled (calls : List UpdateCall) :
    Update.Filled f (Update.build calls) (Update.build (calls.map (UpdateCall.fill f))) := by
  refine foldl_filled ?_ calls .empty
  intro call form u h
  cases call with
  | table t => exact { h with table := .some t.fill_filled }
  | set columns values =>
    exact { h with
      assignments := List.rel_append h.assignments
        (.cons (Assignment.build_filled columns values) .nil) }
  | sources ts => exact { h with sources := h.sources.append (Term.fillEach_filled ts) }
  | join kind target ties =>
    have join := JoinCall.applyAll_filled (f := f) ties (.start kind false target.fill_filled)
    exact { h with joins := List.rel_append h.joins (.cons join .nil) }
  | filter condition =>
    exact { h with filter := ConditionCall.applyAll_filled condition h.filter }
  | whereCurrentOf cursor => exact { h with cursor := .some cursor.fill_filled }
  | returning ts => exact { h with returning := h.returning.append (Term.fillEach_filled ts) }

theorem Conflict.build_filled {form target : ConflictTarget}
    (k : ConflictTarget.Filled f form target)
    (calls : List ConflictCall) :
    Conflict.Filled f (Conflict.build form calls)
      (Conflict.build target (calls.map (ConflictCall.fill f))) := by
  refine foldl_filled ?_ calls ⟨k, .empty, .none⟩
  intro call form c h
  cases call with
  | filter condition =>
    exact { h with filter := ConditionCall.applyAll_filled condition h.filter }
  | doNothing => exact { h with action := .some .nothing }
  | doUpdate update => exact { h with action := .some (.update (Update.build_filled update)) }

theorem Insert.build_filled (calls : List InsertCall) :
    Insert.Filled f (Insert.build calls) (Insert.build (calls.map (InsertCall.fill f))) := by
  refine foldl_filled ?_ calls .empty
  intro call form i h
  cases call with
  | into t => exact { h with table := .some t.fill_filled }
  | columns ts => exact { h with columns := h.columns.append (Term.fillEach_filled ts) }
  | overriding o => exact { h with overriding := rfl }
  | defaultValues => exact { h with defaultValues := rfl }
  | value row => exact { h with rows := List.rel_append h.rows (rowArgs_filled [row]) }
  | values rows => exact { h with rows := List.rel_append h.rows (rowArgs_filled rows) }
  | select calls =>
    exact { h with select := .some (SelectCall.applyAll_filled calls .empty).toTerm }
  | onConflict targets calls =>
    exact { h with
      conflict := .some (Conflict.build_filled (.columns (Term.fillEach_filled targets)) calls) }
  | onConflictOnConstraint name calls =>
    exact { h with conflict := .some (Conflict.build_filled (.constraint name.fill_filled) calls) }
  | returning ts => exact { h with returning := h.returning.append (Term.fillEach_filled ts) }

theorem Delete.build_filled (calls : List DeleteCall) :
    Delete.Filled f (Delete.build calls) (Delete.build (calls.map (DeleteCall.fill f))) := by
  refine foldl_filled ?_ calls .empty
  intro call form d h
  cases call with
  | table t => exact { h with table := .some t.fill_filled }
  | filter condition =>
    exact { h with filter := ConditionCall.applyAll_filled condition h.filter }
  | returning ts => exact { h with returning := h.returning.append (Term.fillEach_filled ts) }

theorem Program.terms_filled (form : Program) :
    FilledEach f form.terms (form.fill f).terms := by
  cases form with
  | select calls => exact (SelectCall.applyAll_filled calls .empty).terms
  | insert calls => exact (Insert.build_filled calls).terms
  | update calls => exact (Update.build_filled calls).terms
  | delete calls => exact (Delete.build_filled calls).terms
  | union calls => exact (UnionCall.applyAll_filled calls .empty).terms

/-- Filling the places of a program fills its arguments, each at its place, and
leaves the text alone. -/
theorem Program.query_fill (form : Program) :
    (form.fill f).query =
      ⟨form.query.sql, form.query.params.map fun place => (f place).value⟩ := by
  have pieces : layOut (form.fill f).terms = fillPieces f (layOut form.terms) := by
    rw [layOut, form.terms_filled.piecesEach, joinPieces_fillPieces, layOut]
  rw [Program.query, Program.query, compile_eq_assemble, compile_eq_assemble, pieces, assemble,
    textFrom_fillPieces, slotValues_fillPieces]
  rfl

/-- Two programs whose values differ and nothing else have the same text and
equally many arguments.  However the two are seen as fillings of one form, where
an argument differs its place was filled differently. -/
theorem query_hides_values (p q : Program) (alike : p.blank = q.blank) :
    p.query.sql = q.query.sql ∧ p.query.params.length = q.query.params.length ∧
      ∀ (form : Program) (f g : Filling), p = form.fill f → q = form.fill g →
        p.query.params = form.query.params.map (fun place => (f place).value) ∧
        q.query.params = form.query.params.map (fun place => (g place).value) ∧
        ∀ i : Nat, p.query.params[i]? ≠ q.query.params[i]? →
          ∃ place, form.query.params[i]? = some place ∧ (f place).value ≠ (g place).value := by
  have blank : p.blank.query = q.blank.query := by rw [alike]
  rw [Program.blank, Program.blank, Program.query_fill, Program.query_fill] at blank
  simp only [Query.mk.injEq] at blank
  obtain ⟨sql, params⟩ := blank
  refine ⟨sql, by simpa using congrArg List.length params, ?_⟩
  intro form f g hp hq
  have paramsLeft : p.query.params = form.query.params.map fun place => (f place).value := by
    rw [hp, Program.query_fill]
  have paramsRight : q.query.params = form.query.params.map fun place => (g place).value := by
    rw [hq, Program.query_fill]
  refine ⟨paramsLeft, paramsRight, ?_⟩
  intro i differ
  rw [paramsLeft, paramsRight, List.getElem?_map, List.getElem?_map] at differ
  cases place? : form.query.params[i]? with
  | none => simp [place?] at differ
  | some place =>
    refine ⟨place, rfl, ?_⟩
    intro equal
    simp [place?, equal] at differ

/-- The rows whose key is a given value. -/
def keyFilter (value : Term) : Program :=
  .delete [.table (.word "t"), .filter [.compare (.word "key") .eq value, .isNull (.word "b")]]

theorem query_hides_values_keyFilter :
    (keyFilter (.literal (.int4 7))).blank = (keyFilter (.literal (.text ""))).blank ∧
      (keyFilter (.literal (.int4 7))).query.sql = (keyFilter (.literal (.text ""))).query.sql ∧
      (keyFilter (.literal (.int4 7))).query.params =
        (keyFilter (.bound (.text "key"))).query.params.map fun _ => .int4 7 := by
  obtain ⟨sql, _, fillings⟩ := query_hides_values (keyFilter (.literal (.int4 7)))
    (keyFilter (.literal (.text ""))) rfl
  obtain ⟨params, _, _⟩ := fillings (keyFilter (.bound (.text "key")))
    (fun _ => ⟨.literal (.int4 7), .int4 7, rfl⟩) (fun _ => ⟨.literal (.text ""), .text "", rfl⟩)
    rfl rfl
  exact ⟨rfl, sql, params⟩

end BoundSql
