import BoundSql.Term.Basic

/-! # Groups

A group collects terms under one separator, in the order in which they come.  A
parenthesized group may have a word in front, as in `row(...)`. -/
set_option autoImplicit false
namespace BoundSql

structure Group where
  separator : String := comma
  items : List Term := []

def Group.push (g : Group) (t : Term) : Group := { g with items := g.items ++ [t] }

def Group.extend (g : Group) (ts : List Term) : Group := { g with items := g.items ++ ts }

def Group.size (g : Group) : Nat := g.items.length

def Group.isEmpty (g : Group) : Bool := g.items.isEmpty

def Group.toTerm (g : Group) : Term := .group g.separator g.items

@[simp]
theorem Group.items_push (g : Group) (t : Term) : (g.push t).items = g.items ++ [t] := rfl

@[simp]
theorem Group.items_extend (g : Group) (ts : List Term) : (g.extend ts).items = g.items ++ ts := rfl

theorem Group.push_eq_extend (g : Group) (t : Term) : g.push t = g.extend [t] := rfl

structure ParenGroup extends Group where
  lead : String := ""

def ParenGroup.push (p : ParenGroup) (t : Term) : ParenGroup :=
  { p with toGroup := p.toGroup.push t }

def ParenGroup.extend (p : ParenGroup) (ts : List Term) : ParenGroup :=
  { p with toGroup := p.toGroup.extend ts }

def ParenGroup.toTerm (p : ParenGroup) : Term := .paren p.lead p.separator p.items

end BoundSql
