import BoundSql.Statement.Paging

/-! # Union

The parts of a union stand between parentheses, with a keyword before each but
the first.  Order, limit and offset apply to the whole. -/
set_option autoImplicit false
namespace BoundSql

structure Union where
  parts : List Term := []
  paging : Paging := {}

/-- `union` removes rows that occur twice, `union all` keeps them. -/
def unionKeyword (keepAll : Bool) : String := if keepAll then "union all" else "union"

def Union.addPart (u : Union) (keepAll : Bool) (part : Term) : Union :=
  { u with parts := u.parts
    ++ (if u.parts.isEmpty then [] else [.word (unionKeyword keepAll)]) ++ [part.parenthesized] }

def Union.terms (u : Union) : List Term := u.parts ++ u.paging.terms

def Union.toTerm (u : Union) : Term := .nested u.terms

end BoundSql
