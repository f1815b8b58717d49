import BoundSql.Literal

/-! # Terms

A term is a part of a statement: a literal, a value bound as an argument, a
list of terms with a separator.  Clauses that take values classify them with
`Term.arg`, which binds plain literals and leaves everything else alone; `raw`
and `notArg` mark a literal as not to be bound.  A term that has been classified
is never classified again. -/
set_option autoImplicit false
namespace BoundSql

inductive Quantifier
  | any
  | all
deriving DecidableEq

def Quantifier.text : Quantifier → String
  | .any => "any"
  | .all => "all"

inductive Term
  | literal (l : Literal)
  | bound (v : Value)
  | unbound (l : Literal)
  | quantified (q : Quantifier) (payload : Term)
  | default
  | group (separator : String) (items : List Term)
  | paren (lead separator : String) (items : List Term)
  | nested (items : List Term)

def Term.word (s : String) : Term := .literal (.text s)

/-- The literal as an argument; null, which has no type, stays in the text. -/
def Literal.arg (l : Literal) : Term :=
  match l.toValue? with
  | some v => .bound v
  | none => .unbound l

/-- A classified literal is an argument, or null. -/
theorem Literal.arg_eq_bound_or_null (l : Literal) :
    (∃ v, l.arg = .bound v) ∨ l.arg = .unbound .null := by
  rw [arg]
  cases value : l.toValue? with
  | some v => exact Or.inl ⟨v, rfl⟩
  | none =>
    obtain rfl := l.toValue?_eq_none_iff.mp value
    exact Or.inr rfl

def Term.arg : Term → Term
  | .literal l => l.arg
  | t => t

/-- A plain literal stays in the text for good. -/
def Term.notArg : Term → Term
  | .literal l => .unbound l
  | t => t

/-- A plain literal stays in the text for good, also inside `any` and `all`. -/
def Term.raw : Term → Term
  | .literal l => .unbound l
  | .quantified q payload => .quantified q payload.raw
  | t => t

/-- Puts `any(...)` or `all(...)` around a term that has none yet.  The default
marker is no value and stays as it is. -/
def Term.quantify (q : Quantifier) : Term → Term
  | .quantified inner payload => .quantified inner payload
  | .default => .default
  | t => .quantified q t

def Term.any (t : Term) : Term := t.quantify .any

def Term.all (t : Term) : Term := t.quantify .all

def comma : String := ", "

def Term.commaList (items : List Term) : Term := .group comma items

def Term.parenList (items : List Term) : Term := .paren "" comma items

def Term.parenthesized (t : Term) : Term := .parenList [t]

end BoundSql
