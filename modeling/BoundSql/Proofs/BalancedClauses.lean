import BoundSql.Program.Build
import BoundSql.Proofs.BalancedTexts

/-! # Balanced statements

The parentheses that a statement writes come in pairs: around lists, conditions, rows and
other statements.  So a part of a statement whose terms are balanced is written as balanced
terms. -/
set_option autoImplicit false
namespace BoundSql

def BalancedEach (ts : List Term) : Prop := ∀ t ∈ ts, t.isBalanced = true

instance (ts : List Term) : Decidable (BalancedEach ts) :=
  decidable_of_iff (ts.all Term.isBalanced = true) List.all_eq_true

@[simp]
theorem balancedEach_nil : BalancedEach [] := List.forall_mem_nil _

@[simp]
theorem balancedEach_cons (t : Term) (ts : List Term) :
    BalancedEach (t :: ts) ↔ t.isBalanced = true ∧ BalancedEach ts := List.forall_mem_cons

@[simp]
theorem balancedEach_append (first second : List Term) :
    BalancedEach (first ++ second) ↔ BalancedEach first ∧ BalancedEach second :=
  List.forall_mem_append

@[simp]
theorem balancedEach_map {α : Type} (f : α → Term) (items : List α) :
    BalancedEach (items.map f) ↔ ∀ item ∈ items, (f item).isBalanced = true :=
  List.forall_mem_map

theorem Term.areBalanced_iff (ts : List Term) :
    Term.areBalanced ts = true ↔ BalancedEach ts := by
  rw [areBalanced, keepTo_eq, List.all_eq_true]
  rfl

section Shapes
variable (ts : List Term)

@[simp]
theorem Term.isBalanced_nested : (Term.nested ts).isBalanced = true ↔ BalancedEach ts :=
  Term.areBalanced_iff ts

theorem Term.isBalanced_group {separator : String} (plain : closes 0 separator.toList = true) :
    (Term.group separator ts).isBalanced = true ↔ BalancedEach ts := by
  rw [isBalanced, keepsTo, Bool.and_eq_true, ← areBalanced, areBalanced_iff]
  exact and_iff_right plain

theorem Term.isBalanced_paren {lead separator : String} (first : closes 0 lead.toList = true)
    (plain : closes 0 separator.toList = true) :
    (Term.paren lead separator ts).isBalanced = true ↔ BalancedEach ts := by
  rw [isBalanced, keepsTo, Bool.and_eq_true, Bool.and_eq_true, ← areBalanced, areBalanced_iff]
  exact and_iff_right ⟨first, plain⟩

@[simp]
theorem Term.isBalanced_commaList : (Term.commaList ts).isBalanced = true ↔ BalancedEach ts :=
  Term.isBalanced_group ts rfl

@[simp]
theorem Term.isBalanced_row : (Term.group " " ts).isBalanced = true ↔ BalancedEach ts :=
  Term.isBalanced_group ts rfl

@[simp]
theorem Term.isBalanced_parenList : (Term.parenList ts).isBalanced = true ↔ BalancedEach ts :=
  Term.isBalanced_paren ts rfl rfl

@[simp]
theorem Term.isBalanced_wrapped : (Term.paren "" " " ts).isBalanced = true ↔ BalancedEach ts :=
  Term.isBalanced_paren ts rfl rfl

@[simp]
theorem Term.isBalanced_parenthesized (t : Term) :
    t.parenthesized.isBalanced = true ↔ t.isBalanced = true := by
  simp [parenthesized]

end Shapes

theorem balanced_aliased {inner : Term} {name : String} (h : inner.isBalanced = true)
    (k : (Term.word name).isBalanced = true) : (aliased inner name).isBalanced = true := by
  rw [aliased]
  split
  · simpa using h
  · simpa using ⟨h, k⟩

theorem balanced_rowArgs {rows : List (List Term)}
    (h : BalancedEach (rows.flatten.map Term.arg)) :
    ∀ row ∈ rows.map fun row => row.map Term.arg, BalancedEach row := by
  rintro _ member
  obtain ⟨row, inside, rfl⟩ := List.mem_map.mp member
  rw [balancedEach_map] at h ⊢
  exact fun t place => h t (List.mem_flatten_of_mem inside place)

theorem balanced_rowsTerm {rows : List (List Term)} (h : ∀ row ∈ rows, BalancedEach row) :
    (rowsTerm rows).isBalanced = true := by
  simpa [rowsTerm] using h

section Clauses
variable {keyword : String}

theorem balanced_listClause (word : (Term.word keyword).isBalanced = true) {items : List Term}
    (h : BalancedEach items) : BalancedEach (listClause keyword items) := by
  rw [listClause]
  split
  · simp
  · simpa using ⟨word, h⟩

theorem balanced_parenClause (word : (Term.word keyword).isBalanced = true) {items : List Term}
    (h : BalancedEach items) : BalancedEach (parenClause keyword items) := by
  rw [parenClause]
  split
  · simp
  · simpa using ⟨word, h⟩

theorem balanced_numberClause (word : (Term.word keyword).isBalanced = true) (n : Option Int64) :
    BalancedEach (numberClause keyword n) := by
  cases n with
  | none => simp [numberClause]
  | some n => simpa [numberClause] using ⟨word, rfl⟩

theorem balanced_termClause (word : (Term.word keyword).isBalanced = true) {t : Option Term}
    (h : BalancedEach t.toList) : BalancedEach (termClause keyword t) := by
  cases t with
  | none => simp [termClause]
  | some t => simpa [termClause] using ⟨word, h t (by simp)⟩

end Clauses

theorem balanced_valuesTable {rows : List (List Term)}
    (h : BalancedEach (rows.flatten.map Term.arg)) : (valuesTable rows).isBalanced = true := by
  rw [valuesTable, Term.isBalanced_nested, balancedEach_cons, balancedEach_cons]
  exact ⟨rfl, balanced_rowsTerm (balanced_rowArgs h), balancedEach_nil⟩

structure Condition.IsBalanced (c : Condition) : Prop where
  predicates : BalancedEach c.predicates
  chain : ∀ link ∈ c.chain, BalancedEach link.2

theorem Condition.IsBalanced.empty : Condition.IsBalanced {} := ⟨by simp, by simp⟩

theorem Connective.balanced_text (c : Connective) : (Term.word c.text).isBalanced = true := by
  cases c <;> rfl

theorem balanced_chainTerms {chain : List (Connective × List Term)}
    (h : ∀ link ∈ chain, BalancedEach link.2) : BalancedEach (chainTerms chain) := by
  induction chain with
  | nil => simp [chainTerms]
  | cons link rest ih =>
    rw [List.forall_mem_cons] at h
    rw [chainTerms, balancedEach_cons, balancedEach_cons]
    exact ⟨link.1.balanced_text, (Term.isBalanced_nested _).mpr h.1, ih h.2⟩

theorem balanced_wrapped (wrap : Bool) {ts : List Term} (h : BalancedEach ts) :
    BalancedEach (wrapped wrap ts) := by
  cases wrap with
  | false => exact h
  | true => simpa [wrapped] using h

theorem Condition.IsBalanced.terms {c : Condition} (h : c.IsBalanced) (nested : Bool) :
    BalancedEach (c.terms nested) := by
  have links := balanced_chainTerms h.chain
  rw [Condition.terms]
  split
  · obtain ⟨predicates, mode, chain⟩ := c
    cases chain with
    | nil => simp
    | cons link rest =>
      cases rest with
      | nil => exact h.chain link List.mem_cons_self
      | cons second rest =>
        refine balanced_wrapped nested ?_
        rw [chainTerms, balancedEach_cons] at links
        exact links.2
  · refine balanced_wrapped _ ?_
    have separator : closes 0 c.mode.separator.toList = true := by cases c.mode <;> rfl
    rw [balancedEach_cons]
    exact ⟨(Term.isBalanced_paren _ rfl separator).mpr h.predicates, links⟩

theorem Condition.IsBalanced.toTerm {c : Condition} (h : c.IsBalanced) :
    c.toTerm.isBalanced = true := (Term.isBalanced_nested _).mpr (h.terms false)

theorem balanced_conditionClause {keyword : String} (word : (Term.word keyword).isBalanced = true)
    {c : Condition} (h : c.IsBalanced) : BalancedEach (conditionClause keyword c) := by
  rw [conditionClause]
  split
  · simp
  · simpa using ⟨word, h.toTerm⟩

theorem Condition.IsBalanced.push {c : Condition} (h : c.IsBalanced) {t : Term}
    (k : t.isBalanced = true) :
    Condition.IsBalanced { c with predicates := c.predicates ++ [t] } :=
  ⟨by simpa using ⟨h.predicates, k⟩, h.chain⟩

theorem Condition.IsBalanced.addPredicate {c : Condition} (h : c.IsBalanced) {parts : List Term}
    (k : BalancedEach parts) : (c.addPredicate parts).IsBalanced :=
  h.push ((Term.isBalanced_row parts).mpr k)

theorem Condition.IsBalanced.addMembership {c : Condition} (h : c.IsBalanced) {left : Term}
    {operator : String} {values : List Term} (first : left.isBalanced = true)
    (word : (Term.word operator).isBalanced = true) (k : BalancedEach values) :
    (c.addMembership left operator values).IsBalanced := by
  rw [Condition.addMembership]
  split
  · rw [emptyMembership?]
    split
    next constant known =>
      split at known
      · cases known
        exact h.push rfl
      · split at known
        · cases known
          exact h.push rfl
        · cases known
    next => exact h
  · exact h.addPredicate (by simpa using ⟨first, word, k⟩)

theorem Condition.IsBalanced.addNot {c inner : Condition} (h : c.IsBalanced)
    (k : inner.IsBalanced) : (c.addNot inner).IsBalanced := by
  rw [Condition.addNot]
  split
  · exact h
  · exact h.push (by simpa using ⟨rfl, k.terms true⟩)

theorem Condition.IsBalanced.addChained {c inner : Condition} (h : c.IsBalanced)
    (connective : Connective) (k : inner.IsBalanced) :
    (c.addChained connective inner).IsBalanced := by
  rw [Condition.addChained]
  split
  · exact h
  · refine ⟨h.predicates, fun link member => ?_⟩
    rcases List.mem_append.mp member with old | new
    · exact h.chain link old
    · rw [List.mem_singleton.mp new]
      exact k.terms true

structure OrderItem.IsBalanced (item : OrderItem) : Prop where
  column : item.column.isBalanced = true
  direction : ∀ w ∈ item.direction, (Term.word w).isBalanced = true
  nulls : ∀ w ∈ item.nulls, (Term.word w).isBalanced = true

theorem OrderItem.IsBalanced.of {column : Term} (h : column.isBalanced = true)
    (words : List OrderWord) : (OrderItem.of column words).IsBalanced := by
  have said : ∀ item : OrderItem, item.IsBalanced →
      (words.foldl OrderItem.say item).IsBalanced := by
    induction words with
    | nil => exact fun _ k => k
    | cons word rest ih =>
      intro item k
      refine ih (item.say word) ?_
      cases word with
      | asc | desc => exact ⟨k.column, by rintro w ⟨⟩; rfl, k.nulls⟩
      | nullsFirst | nullsLast => exact ⟨k.column, k.direction, by rintro w ⟨⟩; rfl⟩
  exact said { column } ⟨h, by simp, by simp⟩

theorem OrderItem.IsBalanced.toTerm {item : OrderItem} (h : item.IsBalanced) :
    item.toTerm.isBalanced = true := by
  have words : ∀ w ∈ item.direction.toList ++ item.nulls.toList,
      (Term.word w).isBalanced = true := by
    intro w member
    rw [List.mem_append, Option.mem_toList, Option.mem_toList] at member
    exact member.elim (h.direction w) (h.nulls w)
  rw [OrderItem.toTerm, Term.isBalanced_nested, balancedEach_cons, balancedEach_map]
  exact ⟨h.column, words⟩

def Paging.IsBalanced (p : Paging) : Prop := ∀ item ∈ p.order, item.IsBalanced

theorem Paging.IsBalanced.addOrder {p : Paging} (h : p.IsBalanced) {column : Term}
    (k : column.isBalanced = true) (words : List OrderWord) :
    (p.addOrder column words).IsBalanced := by
  intro item member
  rcases List.mem_append.mp member with old | new
  · exact h item old
  · rw [List.mem_singleton.mp new]
    exact .of k words

theorem Paging.IsBalanced.terms {p : Paging} (h : p.IsBalanced) : BalancedEach p.terms := by
  have items : BalancedEach (p.order.map OrderItem.toTerm) :=
    (balancedEach_map _ _).mpr fun item member => (h item member).toTerm
  simp only [Paging.terms, balancedEach_append]
  exact ⟨⟨balanced_listClause rfl items, balanced_numberClause rfl _⟩, balanced_numberClause rfl _⟩

structure Join.IsBalanced (j : Join) : Prop where
  target : j.target.isBalanced = true
  on : j.on.IsBalanced
  usingColumns : BalancedEach j.usingColumns

theorem Join.IsBalanced.toTerm {j : Join} (h : j.IsBalanced) : j.toTerm.isBalanced = true := by
  have kind : (Term.word j.kind.text).isBalanced = true := by cases j.kind <;> rfl
  have lateral : BalancedEach (if j.lateral then [.word "lateral"] else []) := by
    cases j.lateral <;> decide
  rw [Join.toTerm, Term.isBalanced_nested]
  simp only [balancedEach_append, balancedEach_cons, balancedEach_nil, and_true]
  exact ⟨⟨⟨⟨kind, lateral⟩, h.target⟩, balanced_conditionClause rfl h.on⟩,
    balanced_parenClause rfl h.usingColumns⟩

theorem balanced_joins {joins : List Join} (h : ∀ j ∈ joins, j.IsBalanced) :
    BalancedEach (joins.map Join.toTerm) :=
  (balancedEach_map _ _).mpr fun j member => (h j member).toTerm

structure Select.IsBalanced (s : Select) : Prop where
  distinct : ∀ on ∈ s.distinct, BalancedEach on
  columns : BalancedEach s.columns
  sources : BalancedEach s.sources
  joins : ∀ j ∈ s.joins, j.IsBalanced
  filter : s.filter.IsBalanced
  groupBy : BalancedEach s.groupBy
  having : s.having.IsBalanced
  paging : s.paging.IsBalanced

theorem Select.IsBalanced.empty : Select.IsBalanced {} where
  distinct := by simp
  columns := by simp
  sources := by simp
  joins := by simp
  filter := .empty
  groupBy := by simp
  having := .empty
  paging := by simp [Paging.IsBalanced]

theorem Select.IsBalanced.addDistinct {s : Select} (h : s.IsBalanced) {on : List Term}
    (k : BalancedEach on) : (s.addDistinct on).IsBalanced := by
  have before : BalancedEach (s.distinct.getD []) := by
    have asked := h.distinct
    cases known : s.distinct with
    | none => exact balancedEach_nil
    | some ts => exact asked ts known
  have all : BalancedEach (s.distinct.getD [] ++ on) := (balancedEach_append _ _).mpr ⟨before, k⟩
  exact { h with distinct := by rintro _ ⟨⟩; exact all }

theorem Select.IsBalanced.addColumns {s : Select} (h : s.IsBalanced) {ts : List Term}
    (k : BalancedEach ts) : (s.addColumns ts).IsBalanced :=
  { h with columns := (balancedEach_append _ _).mpr ⟨h.columns, k⟩ }

theorem Select.IsBalanced.addSources {s : Select} (h : s.IsBalanced) {ts : List Term}
    (k : BalancedEach ts) : (s.addSources ts).IsBalanced :=
  { h with sources := (balancedEach_append _ _).mpr ⟨h.sources, k⟩ }

theorem Select.IsBalanced.addJoin {s : Select} (h : s.IsBalanced) {j : Join}
    (k : j.IsBalanced) : (s.addJoin j).IsBalanced :=
  { h with joins := List.forall_mem_append.mpr ⟨h.joins, List.forall_mem_singleton.mpr k⟩ }

theorem Select.IsBalanced.terms {s : Select} (h : s.IsBalanced) : BalancedEach s.terms := by
  have distinct : BalancedEach s.distinctTerms := by
    have on := h.distinct
    rw [Select.distinctTerms]
    cases asked : s.distinct with
    | none => simp
    | some ts =>
      rw [balancedEach_cons]
      exact ⟨rfl, balanced_parenClause rfl (on ts asked)⟩
  have columns : BalancedEach (if s.columns.isEmpty then [] else [.commaList s.columns]) := by
    split
    · simp
    · simpa using h.columns
  have sources : BalancedEach s.sourceTerms := by
    rw [Select.sourceTerms]
    split
    · simp
    · have joins := balanced_joins h.joins
      simp only [balancedEach_append, balancedEach_cons]
      exact ⟨⟨rfl, (Term.isBalanced_commaList _).mpr h.sources, balancedEach_nil⟩, joins⟩
  simp only [Select.terms, balancedEach_append, balancedEach_cons, balancedEach_nil, and_true]
  exact ⟨⟨⟨⟨⟨⟨⟨rfl, distinct⟩, columns⟩, sources⟩, balanced_conditionClause rfl h.filter⟩,
    balanced_parenClause rfl h.groupBy⟩, balanced_conditionClause rfl h.having⟩, h.paging.terms⟩

theorem Select.IsBalanced.toTerm {s : Select} (h : s.IsBalanced) : s.toTerm.isBalanced = true :=
  (Term.isBalanced_nested _).mpr h.terms

structure Union.IsBalanced (u : Union) : Prop where
  parts : BalancedEach u.parts
  paging : u.paging.IsBalanced

theorem Union.IsBalanced.empty : Union.IsBalanced {} := ⟨by simp, by simp [Paging.IsBalanced]⟩

theorem Union.IsBalanced.addPart {u : Union} (h : u.IsBalanced) (keepAll : Bool) {part : Term}
    (k : part.isBalanced = true) : (u.addPart keepAll part).IsBalanced := by
  have keyword : BalancedEach (if u.parts.isEmpty then [] else [.word (unionKeyword keepAll)]) := by
    split
    · simp
    · cases keepAll <;> decide
  refine ⟨?_, h.paging⟩
  simp only [Union.addPart, balancedEach_append, balancedEach_cons, balancedEach_nil, and_true]
  exact ⟨⟨h.parts, keyword⟩, (Term.isBalanced_parenthesized part).mpr k⟩

theorem Union.IsBalanced.toTerm {u : Union} (h : u.IsBalanced) : u.toTerm.isBalanced = true :=
  (Term.isBalanced_nested _).mpr ((balancedEach_append _ _).mpr ⟨h.parts, h.paging.terms⟩)

structure Assignment.IsBalanced (a : Assignment) : Prop where
  columns : BalancedEach a.columns
  values : BalancedEach a.values

theorem Assignment.IsBalanced.addValues {a : Assignment} (h : a.IsBalanced) {ts : List Term}
    (k : BalancedEach ts) : (a.addValues ts).IsBalanced :=
  ⟨h.columns, (balancedEach_append _ _).mpr ⟨h.values, k⟩⟩

theorem Assignment.IsBalanced.toTerm {a : Assignment} (h : a.IsBalanced) :
    a.toTerm.isBalanced = true := by
  have target : a.target.isBalanced = true := by
    rw [Assignment.target]
    split
    · exact (Term.isBalanced_parenList _).mpr h.columns
    · exact (Term.isBalanced_commaList _).mpr h.columns
  have source : a.source.isBalanced = true := by
    rw [Assignment.source]
    split
    · exact (Term.isBalanced_paren _ rfl rfl).mpr h.values
    · exact (Term.isBalanced_commaList _).mpr h.values
  rw [Assignment.toTerm, Term.isBalanced_nested, balancedEach_cons, balancedEach_cons]
  exact ⟨target, rfl, by simpa using source⟩

structure Update.IsBalanced (u : Update) : Prop where
  table : BalancedEach u.table.toList
  assignments : ∀ a ∈ u.assignments, a.IsBalanced
  sources : BalancedEach u.sources
  joins : ∀ j ∈ u.joins, j.IsBalanced
  filter : u.filter.IsBalanced
  cursor : BalancedEach u.cursor.toList
  returning : BalancedEach u.returning

theorem Update.IsBalanced.empty : Update.IsBalanced {} where
  table := balancedEach_nil
  assignments := List.forall_mem_nil _
  sources := balancedEach_nil
  joins := List.forall_mem_nil _
  filter := .empty
  cursor := balancedEach_nil
  returning := balancedEach_nil

theorem Update.IsBalanced.terms {u : Update} (h : u.IsBalanced) : BalancedEach u.terms := by
  have assignments : BalancedEach (u.assignments.map Assignment.toTerm) :=
    (balancedEach_map _ _).mpr fun a member => (h.assignments a member).toTerm
  simp only [Update.terms, balancedEach_append, balancedEach_cons, balancedEach_nil, and_true]
  exact ⟨⟨⟨⟨⟨⟨⟨rfl, h.table⟩, balanced_listClause rfl assignments⟩,
    balanced_listClause rfl h.sources⟩, balanced_joins h.joins⟩,
    balanced_conditionClause rfl h.filter⟩, balanced_termClause rfl h.cursor⟩,
    balanced_listClause rfl h.returning⟩

def ConflictTarget.terms : ConflictTarget → List Term
  | .columns ts => ts
  | .constraint name => [name]

structure Conflict.IsBalanced (c : Conflict) : Prop where
  target : BalancedEach c.target.terms
  filter : c.filter.IsBalanced
  action : ∀ u, c.action = some (.update u) → u.IsBalanced

theorem Conflict.IsBalanced.toTerm {c : Conflict} (h : c.IsBalanced) :
    c.toTerm.isBalanced = true := by
  have target : BalancedEach c.targetTerms := by
    have given := h.target
    rw [Conflict.targetTerms]
    cases known : c.target with
    | columns ts =>
      rw [known] at given
      have list : BalancedEach (if ts.isEmpty then [] else [.parenList ts]) := by
        split
        · exact balancedEach_nil
        · simpa [ConflictTarget.terms] using given
      exact (balancedEach_append _ _).mpr ⟨list, balanced_conditionClause rfl h.filter⟩
    | constraint name =>
      rw [known] at given
      exact (balancedEach_cons _ _).mpr ⟨rfl, given⟩
  have action : BalancedEach c.actionTerms := by
    have done := h.action
    rw [Conflict.actionTerms]
    match known : c.action with
    | none => exact balancedEach_nil
    | some .nothing => decide
    | some (.update u) => simpa using ⟨rfl, (done u known).terms⟩
  rw [Conflict.toTerm, Term.isBalanced_nested]
  simp only [balancedEach_append, balancedEach_cons, balancedEach_nil, and_true]
  exact ⟨⟨rfl, target⟩, action⟩

structure Insert.IsBalanced (i : Insert) : Prop where
  table : BalancedEach i.table.toList
  columns : BalancedEach i.columns
  rows : ∀ row ∈ i.rows, BalancedEach row
  select : BalancedEach i.select.toList
  conflict : ∀ c ∈ i.conflict, c.IsBalanced
  returning : BalancedEach i.returning

theorem Insert.IsBalanced.empty : Insert.IsBalanced {} where
  table := balancedEach_nil
  columns := balancedEach_nil
  rows := List.forall_mem_nil _
  select := balancedEach_nil
  conflict := by rintro _ ⟨⟩
  returning := balancedEach_nil

theorem Insert.IsBalanced.addRows {i : Insert} (h : i.IsBalanced) {rows : List (List Term)}
    (k : BalancedEach (rows.flatten.map Term.arg)) : (i.addRows rows).IsBalanced :=
  { h with rows := List.forall_mem_append.mpr ⟨h.rows, balanced_rowArgs k⟩ }

theorem Insert.IsBalanced.terms {i : Insert} (h : i.IsBalanced) : BalancedEach i.terms := by
  have columns : BalancedEach (if i.columns.isEmpty then [] else [.parenList i.columns]) := by
    split
    · exact balancedEach_nil
    · simpa using h.columns
  have overriding : BalancedEach i.overridingTerms := by
    rw [Insert.overridingTerms]
    split
    · exact balancedEach_nil
    · rename_i o _
      cases o <;> decide
  have defaults : BalancedEach (if i.defaultValues then [.word "default values"] else []) := by
    cases i.defaultValues <;> decide
  have rows : BalancedEach
      (if i.rows.isEmpty then [] else [.word "values", rowsTerm i.rows]) := by
    split
    · exact balancedEach_nil
    · simpa using ⟨rfl, balanced_rowsTerm h.rows⟩
  have conflict : BalancedEach (i.conflict.map Conflict.toTerm).toList := by
    have met := h.conflict
    cases known : i.conflict with
    | none => exact balancedEach_nil
    | some c => simpa using (met c known).toTerm
  simp only [Insert.terms, balancedEach_append, balancedEach_cons, balancedEach_nil, and_true]
  exact ⟨⟨⟨⟨⟨⟨⟨⟨rfl, balanced_termClause rfl h.table⟩, columns⟩, overriding⟩, defaults⟩, rows⟩,
    h.select⟩, conflict⟩, balanced_listClause rfl h.returning⟩

structure Delete.IsBalanced (d : Delete) : Prop where
  table : BalancedEach d.table.toList
  filter : d.filter.IsBalanced
  returning : BalancedEach d.returning

theorem Delete.IsBalanced.empty : Delete.IsBalanced {} :=
  ⟨balancedEach_nil, .empty, balancedEach_nil⟩

theorem Delete.IsBalanced.terms {d : Delete} (h : d.IsBalanced) : BalancedEach d.terms := by
  simp only [Delete.terms, balancedEach_append, balancedEach_cons, balancedEach_nil, and_true]
  exact ⟨⟨⟨rfl, h.table⟩, balanced_conditionClause rfl h.filter⟩,
    balanced_listClause rfl h.returning⟩

end BoundSql
