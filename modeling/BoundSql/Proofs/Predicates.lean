import BoundSql.Program.Build

/-! # Predicates of a condition

The calls on a condition are of four kinds.  Most of them add one predicate, or
none where it is unfinished or nothing is known of it; the others add a negation,
add to the chain or choose the mode.  A predicate is an atom, whose text is
opaque, or the constant that a membership in an empty list comes to. -/
set_option autoImplicit false
namespace BoundSql

inductive Predicate
  | atom (t : Term)
  | constant (b : Bool)

def Predicate.term : Predicate → Term
  | .atom t => t
  | .constant b => .word (Text.boolText b)

def rowPredicate (parts : List Term) : Predicate := .atom (.group " " parts)

/-- No value is in an empty list, and every value is not in it. -/
def memberPredicate? (left : Term) (operator : String) (values : List Term) : Option Predicate :=
  if values.isEmpty then
    if operator = "in" then some (.constant false)
    else if operator = "not in" then some (.constant true)
    else none
  else some (rowPredicate [left, .word operator, .parenList values])

def PredicateTail.predicate? (left : Term) : PredicateTail → Option Predicate
  | .unfinished => none
  | .compare operator right =>
    right.map fun r => rowPredicate [left, .word operator.text, r.term]
  | .member _ none => none
  | .member operator (some (.values ts)) => memberPredicate? left operator.text (ts.map Term.arg)
  | .member operator (some (.raws ts)) => memberPredicate? left operator.text (ts.map Term.raw)
  | .member operator (some (.field t)) => some (rowPredicate [left, .word operator.text, t.raw])
  | .isNull => some (rowPredicate [left, .word "is null"])
  | .isNotNull => some (rowPredicate [left, .word "is not null"])

/-- The predicate that a call adds by itself. -/
def ConditionCall.predicate? : ConditionCall → Option Predicate
  | .compare left operator value =>
    some (rowPredicate [left, .word operator.text, value.arg])
  | .compareRaw left operator value =>
    some (rowPredicate [left, .word operator.text, value.raw])
  | .between left low high =>
    some (rowPredicate [left, .word "between", low.arg, .word "and", high.arg])
  | .notBetween left low high =>
    some (rowPredicate [left, .word "not between", low.arg, .word "and", high.arg])
  | .isIn left values => memberPredicate? left "in" (values.map Term.arg)
  | .isInRaw left values => memberPredicate? left "in" (values.map Term.raw)
  | .notIn left values => memberPredicate? left "not in" (values.map Term.arg)
  | .notInRaw left values => memberPredicate? left "not in" (values.map Term.raw)
  | .inSelect left select =>
    some (rowPredicate [left, .word "in", (Select.build select).toTerm.parenthesized])
  | .isNull left => some (rowPredicate [left, .word "is null"])
  | .isNotNull left => some (rowPredicate [left, .word "is not null"])
  | .rawText sql => some (.atom (.word sql))
  | .stepwise left tail => tail.predicate? left.term
  | .stepwiseSelect left operator select =>
    some (rowPredicate [left.term, .word operator.text,
      (Select.build select).toTerm.parenthesized])
  | .not _ | .chained _ _ | .mode _ => none

/-- A call that adds a predicate by itself or nothing. -/
def ConditionCall.isPlain : ConditionCall → Bool
  | .not _ | .chained _ _ | .mode _ => false
  | _ => true

def Condition.add (c : Condition) (p : Option Predicate) : Condition :=
  { c with predicates := c.predicates ++ (p.map Predicate.term).toList }

theorem Condition.addMembership_eq (c : Condition) (left : Term) (operator : String)
    (values : List Term) :
    c.addMembership left operator values = c.add (memberPredicate? left operator values) := by
  rw [addMembership, memberPredicate?]
  by_cases empty : values.isEmpty = true
  · rw [if_pos empty, if_pos empty, emptyMembership?]
    by_cases isIn : operator = "in"
    · rw [if_pos isIn, if_pos isIn]
      rfl
    · rw [if_neg isIn, if_neg isIn]
      by_cases notIn : operator = "not in"
      · rw [if_pos notIn, if_pos notIn]
        rfl
      · rw [if_neg notIn, if_neg notIn]
        simp [add]
  · rw [if_neg empty, if_neg empty]
    rfl

theorem Condition.add_none (c : Condition) : c.add none = c := by simp [add]

theorem PredicateTail.addTo_eq (tail : PredicateTail) (left : Term) (c : Condition) :
    tail.addTo left c = c.add (tail.predicate? left) := by
  cases tail with
  | unfinished => exact c.add_none.symm
  | compare operator right =>
    cases right with
    | none => exact c.add_none.symm
    | some right => rfl
  | member operator right =>
    cases right with
    | none => exact c.add_none.symm
    | some right =>
      cases right with
      | values ts => exact c.addMembership_eq left operator.text (ts.map Term.arg)
      | raws ts => exact c.addMembership_eq left operator.text (ts.map Term.raw)
      | field t => rfl
  | isNull => rfl
  | isNotNull => rfl

/-- What a plain call does: it adds its predicate behind the others. -/
theorem ConditionCall.apply_plain (call : ConditionCall) (c : Condition)
    (plain : call.isPlain = true) : call.apply c = c.add call.predicate? := by
  cases call with
  | isIn left values => exact c.addMembership_eq left "in" (values.map Term.arg)
  | isInRaw left values => exact c.addMembership_eq left "in" (values.map Term.raw)
  | notIn left values => exact c.addMembership_eq left "not in" (values.map Term.arg)
  | notInRaw left values => exact c.addMembership_eq left "not in" (values.map Term.raw)
  | stepwise left tail => exact tail.addTo_eq left.term c
  | not inner => simp [isPlain] at plain
  | chained connective inner => simp [isPlain] at plain
  | mode connective => simp [isPlain] at plain
  | _ => rfl

end BoundSql
