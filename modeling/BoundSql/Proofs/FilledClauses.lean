import BoundSql.Proofs.FilledTerms

/-! # Filled conditions and clauses

A condition is filled from a form when its predicates and its chain are.  Every
decision about parentheses, empty lists and empty clauses is taken on the shape
alone, so filled conditions and lists give filled terms. -/
set_option autoImplicit false
namespace BoundSql

open List (Forall₂)

variable {f : Filling}

def LinkFilled (f : Filling) (form link : Connective × List Term) : Prop :=
  link.1 = form.1 ∧ FilledEach f form.2 link.2

structure Condition.Filled (f : Filling) (form c : Condition) : Prop where
  predicates : FilledEach f form.predicates c.predicates
  mode : c.mode = form.mode
  chain : Forall₂ (LinkFilled f) form.chain c.chain

theorem Condition.Filled.empty : Condition.Filled f {} {} := ⟨.nil, rfl, .nil⟩

theorem Condition.Filled.isEmpty {form c : Condition} (h : Condition.Filled f form c) :
    c.isEmpty = form.isEmpty := by
  rw [Condition.isEmpty, h.predicates.isEmpty, isEmpty_of_forall₂ h.chain, Condition.isEmpty]

theorem chainTerms_filled {forms links : List (Connective × List Term)}
    (h : Forall₂ (LinkFilled f) forms links) :
    FilledEach f (chainTerms forms) (chainTerms links) := by
  induction h with
  | nil => exact .nil
  | @cons form link _ _ first _ ih =>
    obtain ⟨connective, inner⟩ := form
    obtain ⟨_, _⟩ := link
    obtain ⟨rfl, filled⟩ := first
    exact .cons (.word _) (.cons (.nested filled) ih)

theorem wrapped_filled (wrap : Bool) {forms ts : List Term} (h : FilledEach f forms ts) :
    FilledEach f (wrapped wrap forms) (wrapped wrap ts) := by
  cases wrap with
  | false => exact h
  | true => exact .cons (.paren "" " " h) .nil

/-- How a condition is put between parentheses does not depend on its values. -/
theorem Condition.Filled.terms {form c : Condition} (h : Condition.Filled f form c)
    (nested : Bool) : FilledEach f (form.terms nested) (c.terms nested) := by
  obtain ⟨formPredicates, formMode, formChain⟩ := form
  obtain ⟨predicates, mode, chain⟩ := c
  obtain ⟨hp, hm, hc⟩ := h
  simp only at hp hm hc
  subst hm
  cases hp with
  | nil =>
    cases hc with
    | nil => exact .nil
    | cons first rest =>
      cases rest with
      | nil => exact first.2
      | cons second rest =>
        have later := chainTerms_filled (.cons second rest)
        exact wrapped_filled nested (.cons (.nested first.2) later)
  | cons first rest =>
    have own : Term.Filled f (.paren "" mode.separator _) (.paren "" mode.separator _) :=
      .paren "" mode.separator (.cons first rest)
    have all := List.Forall₂.cons own (chainTerms_filled hc)
    cases hc with
    | nil => exact wrapped_filled (nested && false) all
    | cons _ _ => exact wrapped_filled (nested && true) all

theorem Condition.Filled.toTerm {form c : Condition} (h : Condition.Filled f form c) :
    Term.Filled f form.toTerm c.toTerm := .nested (h.terms false)

theorem Condition.Filled.addPredicate {form c : Condition} (h : Condition.Filled f form c)
    {forms ts : List Term} (parts : FilledEach f forms ts) :
    Condition.Filled f (form.addPredicate forms) (c.addPredicate ts) :=
  ⟨h.predicates.append (.cons (.group " " parts) .nil), h.mode, h.chain⟩

theorem Condition.Filled.addText {form c : Condition} (h : Condition.Filled f form c)
    (sql : String) : Condition.Filled f (form.addText sql) (c.addText sql) :=
  ⟨h.predicates.append (.cons (.word sql) .nil), h.mode, h.chain⟩

theorem Condition.Filled.addMembership {form c : Condition} (h : Condition.Filled f form c)
    {left left' : Term} (hleft : Term.Filled f left left') (operator : String)
    {forms ts : List Term} (values : FilledEach f forms ts) :
    Condition.Filled f (form.addMembership left operator forms)
      (c.addMembership left' operator ts) := by
  rw [Condition.addMembership, Condition.addMembership, values.isEmpty]
  cases forms.isEmpty with
  | true =>
    cases emptyMembership? operator with
    | none => exact h
    | some constant => exact h.addText constant
  | false =>
    exact h.addPredicate
      (.cons hleft (.cons (.word operator) (.cons (.paren "" comma values) .nil)))

theorem Condition.Filled.addNot {form c inner inner' : Condition} (h : Condition.Filled f form c)
    (k : Condition.Filled f inner inner') :
    Condition.Filled f (form.addNot inner) (c.addNot inner') := by
  rw [Condition.addNot, Condition.addNot, k.isEmpty]
  cases inner.isEmpty with
  | true => exact h
  | false =>
    have negation : FilledEach f [.word "not", .nested (inner.terms true)]
        [.word "not", .nested (inner'.terms true)] :=
      .cons (.word "not") (.cons (.nested (k.terms true)) .nil)
    exact ⟨h.predicates.append (.cons (.paren "" " " negation) .nil), h.mode, h.chain⟩

theorem Condition.Filled.addChained {form c inner inner' : Condition}
    (h : Condition.Filled f form c) (connective : Connective)
    (k : Condition.Filled f inner inner') :
    Condition.Filled f (form.addChained connective inner) (c.addChained connective inner') := by
  rw [Condition.addChained, Condition.addChained, k.isEmpty]
  cases inner.isEmpty with
  | true => exact h
  | false =>
    have link : LinkFilled f (connective, inner.terms true) (connective, inner'.terms true) :=
      ⟨rfl, k.terms true⟩
    exact ⟨h.predicates, h.mode, List.rel_append h.chain (.cons link .nil)⟩

theorem listClause_filled (keyword : String) {forms ts : List Term} (h : FilledEach f forms ts) :
    FilledEach f (listClause keyword forms) (listClause keyword ts) := by
  rw [listClause, listClause, h.isEmpty]
  cases forms.isEmpty with
  | true => exact .nil
  | false => exact .cons (.word keyword) (.cons (.group comma h) .nil)

theorem parenClause_filled (keyword : String) {forms ts : List Term} (h : FilledEach f forms ts) :
    FilledEach f (parenClause keyword forms) (parenClause keyword ts) := by
  rw [parenClause, parenClause, h.isEmpty]
  cases forms.isEmpty with
  | true => exact .nil
  | false => exact .cons (.word keyword) (.cons (.paren "" comma h) .nil)

theorem conditionClause_filled (keyword : String) {form c : Condition}
    (h : Condition.Filled f form c) :
    FilledEach f (conditionClause keyword form) (conditionClause keyword c) := by
  rw [conditionClause, conditionClause, h.isEmpty]
  cases form.isEmpty with
  | true => exact .nil
  | false => exact .cons (.word keyword) (.cons h.toTerm .nil)

theorem numberClause_filled (keyword : String) (n : Option Int64) :
    FilledEach f (numberClause keyword n) (numberClause keyword n) := by
  cases n with
  | none => exact .nil
  | some n => exact .cons (.word keyword) (.cons (.literal (.int8 n)) .nil)

theorem termClause_filled (keyword : String) {form t : Option Term}
    (h : Option.Rel (Term.Filled f) form t) :
    FilledEach f (termClause keyword form) (termClause keyword t) := by
  cases h with
  | none => exact .nil
  | some filled => exact .cons (.word keyword) (.cons filled .nil)

theorem toList_filled {form t : Option Term} (h : Option.Rel (Term.Filled f) form t) :
    FilledEach f form.toList t.toList := by
  cases h with
  | none => exact .nil
  | some filled => exact .cons filled .nil

theorem parenList_filled {forms ts : List Term} (h : FilledEach f forms ts) :
    FilledEach f (if forms.isEmpty then [] else [.parenList forms])
      (if ts.isEmpty then [] else [.parenList ts]) := by
  rw [h.isEmpty]
  cases forms.isEmpty with
  | true => exact .nil
  | false => exact .cons (.paren "" comma h) .nil

theorem aliased_filled (name : String) {form t : Term} (h : Term.Filled f form t) :
    Term.Filled f (aliased form name) (aliased t name) := by
  rw [aliased, aliased]
  cases name.isEmpty with
  | true => exact .nested (.cons h.parenthesized .nil)
  | false => exact .nested (.cons h.parenthesized (.cons (.word name) .nil))

theorem rowsTerm_filled {forms rows : List (List Term)} (h : Forall₂ (FilledEach f) forms rows) :
    Term.Filled f (rowsTerm forms) (rowsTerm rows) := by
  have parens : FilledEach f (forms.map .parenList) (rows.map .parenList) := by
    induction h with
    | nil => exact .nil
    | cons row _ ih => exact .cons (.paren "" comma row) ih
  exact .group comma parens

theorem rowArgs_filled (rows : List (List Term)) :
    Forall₂ (FilledEach f) (rows.map fun row => row.map Term.arg)
      ((rows.map (List.map (Term.fillValue f))).map fun row => row.map Term.arg) := by
  induction rows with
  | nil => exact .nil
  | cons row rest ih => exact .cons (.args row) ih

end BoundSql
