import BoundSql.Value

/-! # Arguments

The values of a query in the order of their placeholders.  The placeholder `$n`
stands for the `n`-th value, counted from one. -/
set_option autoImplicit false
namespace BoundSql

structure Arguments where
  values : Array Value

def Arguments.empty : Arguments := ⟨#[]⟩

/-- Adds a value behind the others and gives the number of its placeholder. -/
def Arguments.bind (args : Arguments) (v : Value) : Nat × Arguments :=
  (args.values.size + 1, ⟨args.values.push v⟩)

def Arguments.size (args : Arguments) : Nat := args.values.size

def Arguments.isEmpty (args : Arguments) : Bool := args.values.isEmpty

def Arguments.toList (args : Arguments) : List Value := args.values.toList

@[simp]
theorem Arguments.toList_empty : Arguments.empty.toList = [] := rfl

@[simp]
theorem Arguments.toList_bind (args : Arguments) (v : Value) :
    (args.bind v).2.toList = args.toList ++ [v] := by
  simp [bind, toList]

/-- A placeholder carries the place of its value. -/
@[simp]
theorem Arguments.number_bind (args : Arguments) (v : Value) :
    (args.bind v).1 = args.toList.length + 1 := by
  simp [bind, toList]

end BoundSql
