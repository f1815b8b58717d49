import BoundSql.Proofs.BoundArguments
import BoundSql.Statement.Delete
import BoundSql.Statement.Insert
import BoundSql.Statement.Select
import BoundSql.Statement.Union

/-! # The values in the clauses of a statement

`valuesIn` tells what a statement under construction holds in each of its clauses.
An operation on the statement adds to one clause, and the terms of the statement
have the values of the clauses in the order of the text. -/
set_option autoImplicit false
namespace BoundSql

section Terms

@[simp]
theorem Term.slots_word (s : String) : (Term.word s).slots = [] := rfl

@[simp]
theorem Term.slots_group (separator : String) (items : List Term) :
    (Term.group separator items).slots = items.flatMap Term.slots := by
  rw [Term.slots, Term.slotsEach_eq_flatMap]

@[simp]
theorem Term.slots_paren (lead separator : String) (items : List Term) :
    (Term.paren lead separator items).slots = items.flatMap Term.slots := by
  rw [Term.slots, Term.slotsEach_eq_flatMap]

@[simp]
theorem Term.slots_nested (items : List Term) :
    (Term.nested items).slots = items.flatMap Term.slots := by
  rw [Term.slots, Term.slotsEach_eq_flatMap]

@[simp]
theorem Term.slots_commaList (items : List Term) :
    (Term.commaList items).slots = items.flatMap Term.slots := Term.slots_group comma items

@[simp]
theorem Term.slots_parenList (items : List Term) :
    (Term.parenList items).slots = items.flatMap Term.slots := Term.slots_paren "" comma items

@[simp]
theorem Term.slots_parenthesized (t : Term) : t.parenthesized.slots = t.slots := by
  rw [Term.parenthesized, Term.slots_parenList, List.flatMap_singleton]

@[simp]
theorem slots_aliased (t : Term) (name : String) : (aliased t name).slots = t.slots := by
  cases h : name.isEmpty <;> simp [aliased, h]

@[simp]
theorem slots_rowsTerm (rows : List (List Term)) :
    (rowsTerm rows).slots = rows.flatMap fun row => row.flatMap Term.slots := by
  simp [rowsTerm, List.flatMap_map]

@[simp]
theorem slots_listClause (keyword : String) (items : List Term) :
    (listClause keyword items).flatMap Term.slots = items.flatMap Term.slots := by
  cases items <;> simp [listClause]

@[simp]
theorem slots_parenClause (keyword : String) (items : List Term) :
    (parenClause keyword items).flatMap Term.slots = items.flatMap Term.slots := by
  cases items <;> simp [parenClause]

@[simp]
theorem slots_numberClause (keyword : String) (n : Option Int64) :
    (numberClause keyword n).flatMap Term.slots = [] := by
  cases n <;> simp [numberClause, Term.slots]

@[simp]
theorem slots_termClause (keyword : String) (t : Option Term) :
    (termClause keyword t).flatMap Term.slots = t.toList.flatMap Term.slots := by
  cases t <;> simp [termClause]

end Terms

def Condition.valuesIn : ConditionClause → Condition → List Value
  | .own, c => c.predicates.flatMap Term.slots
  | .chain, c => c.chain.flatMap fun link => link.2.flatMap Term.slots

def Condition.values (c : Condition) : List Value :=
  conditionOrder.flatMap fun part => c.valuesIn part

theorem Condition.values_eq (c : Condition) : c.values = c.valuesIn .own ++ c.valuesIn .chain := by
  simp [Condition.values, conditionOrder]

theorem slots_chainTerms (chain : List (Connective × List Term)) :
    (chainTerms chain).flatMap Term.slots =
      chain.flatMap fun link => link.2.flatMap Term.slots := by
  induction chain with
  | nil => rfl
  | cons link rest ih =>
    obtain ⟨connective, inner⟩ := link
    simp [chainTerms, ih]

theorem slots_wrapped (wrap : Bool) (ts : List Term) :
    (wrapped wrap ts).flatMap Term.slots = ts.flatMap Term.slots := by
  cases wrap <;> simp [wrapped]

/-- Parentheses do not move values: the predicates come first, then the chain. -/
theorem Condition.slots_terms (c : Condition) (nested : Bool) :
    (c.terms nested).flatMap Term.slots = c.values := by
  obtain ⟨predicates, mode, chain⟩ := c
  rw [values_eq]
  cases predicates with
  | cons t ts => simp [terms, slots_wrapped, slots_chainTerms, valuesIn]
  | nil =>
    cases chain with
    | nil => rfl
    | cons link rest =>
      cases rest with
      | nil => simp [terms, valuesIn]
      | cons second more => simp [terms, slots_wrapped, slots_chainTerms, valuesIn]

theorem Condition.values_of_isEmpty (c : Condition) (h : c.isEmpty = true) : c.values = [] := by
  rw [isEmpty, Bool.and_eq_true, List.isEmpty_iff, List.isEmpty_iff] at h
  rw [values_eq, valuesIn, valuesIn, h.1, h.2]
  rfl

@[simp]
theorem slots_conditionClause (keyword : String) (c : Condition) :
    (conditionClause keyword c).flatMap Term.slots = c.values := by
  rw [conditionClause]
  split
  · rename_i empty
    rw [c.values_of_isEmpty empty]
    rfl
  · simp [Condition.toTerm, c.slots_terms]

def Join.valuesIn : JoinClause → Join → List Value
  | .on part, j => j.on.valuesIn part
  | .usingColumns, j => j.usingColumns.flatMap Term.slots

theorem Join.slots_toTerm (j : Join) :
    j.toTerm.slots = j.target.slots ++ joinOrder.flatMap fun clause => j.valuesIn clause := by
  have lateral : (if j.lateral then [Term.word "lateral"] else []).flatMap Term.slots = [] := by
    cases j.lateral <;> rfl
  simp [toTerm, lateral, joinOrder, conditionOrder, valuesIn, Condition.values_eq]

theorem OrderItem.column_foldl_say (words : List OrderWord) (item : OrderItem) :
    (words.foldl OrderItem.say item).column = item.column := by
  induction words generalizing item with
  | nil => rfl
  | cons word rest ih =>
    rw [List.foldl_cons, ih]
    cases word <;> rfl

theorem OrderItem.slots_toTerm (item : OrderItem) : item.toTerm.slots = item.column.slots := by
  have words : ∀ ss : List String, (ss.map Term.word).flatMap Term.slots = [] := by
    intro ss
    induction ss with
    | nil => rfl
    | cons s rest ih => simp [ih]
  simp only [toTerm, Term.slots_nested, List.flatMap_cons, words, List.append_nil]

def Paging.values (p : Paging) : List Value := p.order.flatMap fun item => item.column.slots

@[simp]
theorem Paging.slots_terms (p : Paging) : p.terms.flatMap Term.slots = p.values := by
  simp [terms, values, List.flatMap_map, OrderItem.slots_toTerm]

theorem Paging.values_addOrder (p : Paging) (column : Term) (words : List OrderWord) :
    (p.addOrder column words).values = p.values ++ column.slots := by
  simp [addOrder, values, OrderItem.of, OrderItem.column_foldl_say]

def Select.valuesIn : SelectClause → Select → List Value
  | .distinct, s => (s.distinct.getD []).flatMap Term.slots
  | .columns, s => s.columns.flatMap Term.slots
  | .sources, s => s.sources.flatMap Term.slots
  | .joins, s => s.joins.flatMap fun j => j.toTerm.slots
  | .filter part, s => s.filter.valuesIn part
  | .groupBy, s => s.groupBy.flatMap Term.slots
  | .having part, s => s.having.valuesIn part
  | .orderBy, s => s.paging.values

theorem Select.slots_distinctTerms (s : Select) :
    s.distinctTerms.flatMap Term.slots = s.valuesIn .distinct := by
  rw [distinctTerms, valuesIn]
  cases s.distinct with
  | none => rfl
  | some on => simp

theorem Select.slots_sourceTerms (s : Select) :
    s.sourceTerms.flatMap Term.slots =
      s.valuesIn .sources ++ if s.sources.isEmpty then [] else s.valuesIn .joins := by
  rw [sourceTerms, valuesIn, valuesIn]
  cases h : s.sources with
  | nil => rfl
  | cons t ts => simp [List.flatMap_map]

theorem Select.slots_terms (s : Select) :
    s.terms.flatMap Term.slots =
      (selectOrder (!s.sources.isEmpty)).flatMap fun clause => s.valuesIn clause := by
  have columns : (if s.columns.isEmpty then [] else [Term.commaList s.columns]).flatMap Term.slots =
      s.valuesIn .columns := by
    cases h : s.columns <;> simp [valuesIn, h]
  simp only [terms, List.flatMap_append, slots_distinctTerms, columns, slots_sourceTerms,
    slots_conditionClause, slots_parenClause, Paging.slots_terms, Condition.values_eq]
  cases s.sources.isEmpty with
  | false => simp [selectOrder, conditionOrder, valuesIn]
  | true => simp [selectOrder, conditionOrder, valuesIn]

theorem Select.slots_toTerm (s : Select) :
    s.toTerm.slots =
      (selectOrder (!s.sources.isEmpty)).flatMap fun clause => s.valuesIn clause := by
  rw [toTerm, Term.slots_nested, s.slots_terms]

@[simp]
theorem slots_valuesTable (rows : List (List Term)) :
    (valuesTable rows).slots = rows.flatMap fun row => row.flatMap fun t => t.arg.slots := by
  simp [valuesTable, List.flatMap_map]

def Union.valuesIn : UnionClause → Union → List Value
  | .parts, u => u.parts.flatMap Term.slots
  | .orderBy, u => u.paging.values

theorem Union.slots_terms (u : Union) :
    u.terms.flatMap Term.slots = unionOrder.flatMap fun clause => u.valuesIn clause := by
  simp [terms, unionOrder, valuesIn]

theorem Assignment.slots_toTerm (a : Assignment) :
    a.toTerm.slots = a.columns.flatMap Term.slots ++ a.values.flatMap Term.slots := by
  have target : a.target.slots = a.columns.flatMap Term.slots := by
    rw [Assignment.target]
    split <;> simp
  have source : a.source.slots = a.values.flatMap Term.slots := by
    rw [Assignment.source]
    split <;> simp
  simp [toTerm, target, source]

def Update.valuesIn : UpdateClause → Update → List Value
  | .table, u => u.table.toList.flatMap Term.slots
  | .assignments, u => u.assignments.flatMap fun a => a.toTerm.slots
  | .sources, u => u.sources.flatMap Term.slots
  | .joins, u => u.joins.flatMap fun j => j.toTerm.slots
  | .filter part, u => u.filter.valuesIn part
  | .cursor, u => u.cursor.toList.flatMap Term.slots
  | .returning, u => u.returning.flatMap Term.slots

theorem Update.slots_terms (u : Update) :
    u.terms.flatMap Term.slots = updateOrder.flatMap fun clause => u.valuesIn clause := by
  simp only [terms, List.flatMap_append, slots_listClause, slots_conditionClause,
    slots_termClause, Condition.values_eq]
  simp [updateOrder, conditionOrder, valuesIn, List.flatMap_map]

def ConflictTarget.hasFilter : ConflictTarget → Bool
  | .columns _ => true
  | .constraint _ => false

def ConflictTarget.values : ConflictTarget → List Value
  | .columns ts => ts.flatMap Term.slots
  | .constraint name => name.slots

def Conflict.valuesIn : ConflictClause → Conflict → List Value
  | .filter part, c => c.filter.valuesIn part
  | .action, c => c.actionTerms.flatMap Term.slots

theorem Conflict.slots_toTerm (c : Conflict) :
    c.toTerm.slots = c.target.values ++
      (conflictOrder c.target.hasFilter).flatMap fun clause => c.valuesIn clause := by
  obtain ⟨target, filter, action⟩ := c
  cases target with
  | columns ts =>
    have own : (if ts.isEmpty then [] else [Term.parenList ts]).flatMap Term.slots =
        ts.flatMap Term.slots := by
      cases ts <;> simp
    simp only [toTerm, targetTerms, Term.slots_nested, List.flatMap_append, own,
      slots_conditionClause, Condition.values_eq]
    simp [ConflictTarget.values, ConflictTarget.hasFilter, conflictOrder, conditionOrder, valuesIn]
  | constraint name =>
    simp [toTerm, targetTerms, ConflictTarget.values, ConflictTarget.hasFilter, conflictOrder,
      valuesIn]

def Insert.valuesIn : InsertClause → Insert → List Value
  | .table, i => i.table.toList.flatMap Term.slots
  | .columns, i => i.columns.flatMap Term.slots
  | .rows, i => i.rows.flatMap fun row => row.flatMap Term.slots
  | .select, i => i.select.toList.flatMap Term.slots
  | .conflict, i => i.conflict.toList.flatMap fun c => c.toTerm.slots
  | .returning, i => i.returning.flatMap Term.slots

theorem Insert.slots_terms (i : Insert) :
    i.terms.flatMap Term.slots = insertOrder.flatMap fun clause => i.valuesIn clause := by
  have columns : (if i.columns.isEmpty then [] else [Term.parenList i.columns]).flatMap Term.slots =
      i.valuesIn .columns := by
    rw [valuesIn]
    cases i.columns <;> simp
  have overriding : i.overridingTerms.flatMap Term.slots = [] := by
    rw [overridingTerms]
    cases i.overriding <;> rfl
  have defaults : (if i.defaultValues then [Term.word "default values"] else []).flatMap
      Term.slots = [] := by
    cases i.defaultValues <;> rfl
  have rows : (if i.rows.isEmpty then [] else [Term.word "values", rowsTerm i.rows]).flatMap
      Term.slots = i.valuesIn .rows := by
    rw [valuesIn]
    cases i.rows <;> simp
  have conflict : (i.conflict.map Conflict.toTerm).toList.flatMap Term.slots =
      i.valuesIn .conflict := by
    rw [valuesIn]
    cases i.conflict <;> simp
  simp only [terms, List.flatMap_append, slots_termClause, slots_listClause, columns, overriding,
    defaults, rows, conflict]
  simp [insertOrder, valuesIn]

def Delete.valuesIn : DeleteClause → Delete → List Value
  | .table, d => d.table.toList.flatMap Term.slots
  | .filter part, d => d.filter.valuesIn part
  | .returning, d => d.returning.flatMap Term.slots

theorem Delete.slots_terms (d : Delete) :
    d.terms.flatMap Term.slots = deleteOrder.flatMap fun clause => d.valuesIn clause := by
  simp only [terms, List.flatMap_append, slots_listClause, slots_conditionClause,
    Condition.values_eq]
  simp [deleteOrder, conditionOrder, valuesIn]

end BoundSql
