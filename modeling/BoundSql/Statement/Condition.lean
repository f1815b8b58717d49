import BoundSql.Term.Basic

/-! # Conditions

A condition has predicates of its own, joined by one connective, and a chain of
nested conditions, each with the connective in front of it.  The predicates
stand between parentheses, the chain follows them; a nested condition that has
both stands between parentheses once more.  Without predicates a single chained
condition takes the place of the whole, and several stand in a row without the
first connective. -/
set_option autoImplicit false
namespace BoundSql

inductive Connective
  | and
  | or
deriving DecidableEq

def Connective.text : Connective → String
  | .and => "and"
  | .or => "or"

def Connective.separator (c : Connective) : String := " " ++ c.text ++ " "

/-- A chained condition is kept as the terms it has when nested. -/
structure Condition where
  predicates : List Term := []
  mode : Connective := .and
  chain : List (Connective × List Term) := []

def Condition.isEmpty (c : Condition) : Bool := c.predicates.isEmpty && c.chain.isEmpty

def chainTerms : List (Connective × List Term) → List Term
  | [] => []
  | (connective, inner) :: rest => .word connective.text :: .nested inner :: chainTerms rest

def wrapped (wrap : Bool) (terms : List Term) : List Term :=
  if wrap then [.paren "" " " terms] else terms

def Condition.terms (nested : Bool) (c : Condition) : List Term :=
  if c.predicates.isEmpty then
    match c.chain with
    | [] => []
    | [(_, inner)] => inner
    | (_, inner) :: rest => wrapped nested (.nested inner :: chainTerms rest)
  else
    wrapped (nested && !c.chain.isEmpty)
      (.paren "" c.mode.separator c.predicates :: chainTerms c.chain)

def Condition.toTerm (c : Condition) : Term := .nested (c.terms false)

def Condition.addPredicate (c : Condition) (parts : List Term) : Condition :=
  { c with predicates := c.predicates ++ [.group " " parts] }

def Condition.addText (c : Condition) (sql : String) : Condition :=
  { c with predicates := c.predicates ++ [.word sql] }

/-- What a membership in an empty list comes to: SQL has no empty list, but no
value is in it and every value is not in it.  Of other operators nothing is
known. -/
def emptyMembership? (operator : String) : Option String :=
  if operator = "in" then some "false"
  else if operator = "not in" then some "true"
  else none

def Condition.addMembership (c : Condition) (left : Term) (operator : String)
    (values : List Term) : Condition :=
  if values.isEmpty then
    match emptyMembership? operator with
    | some constant => c.addText constant
    | none => c
  else c.addPredicate [left, .word operator, .parenList values]

def Condition.addNot (c inner : Condition) : Condition :=
  if inner.isEmpty then c
  else { c with predicates :=
    c.predicates ++ [.paren "" " " [.word "not", .nested (inner.terms true)]] }

def Condition.addChained (c : Condition) (connective : Connective) (inner : Condition) :
    Condition :=
  if inner.isEmpty then c
  else { c with chain := c.chain ++ [(connective, inner.terms true)] }

end BoundSql
