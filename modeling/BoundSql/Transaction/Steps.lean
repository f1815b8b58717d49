import BoundSql.Transaction.Run

/-! # Bodies made of steps

A simple body sends a list of statements and then ends in a way that is fixed
beforehand.  A step that fails ends the body with its failure, unless the step
says that its failure does not matter. -/
set_option autoImplicit false
namespace BoundSql

structure Step (β : Type) where
  sql : String
  params : List Value
  reading : Reading β
  ignoresFailure : Bool := false

/-- How often a body ran, and what its steps came to. -/
structure StepRecord (β : Type) where
  runs : Nat := 0
  results : List (Except Failure β) := []

def StepRecord.add {β : Type} (r : StepRecord β) (result : Except Failure β) : StepRecord β :=
  { r with results := r.results ++ [result] }

def Body.ofSteps {α β : Type} (ending : Except Failure α) :
    List (Step β) → StepRecord β → Body (StepRecord β) α
  | [], record => .done record ending
  | step :: rest, record =>
    .send step.sql step.params fun report =>
      let result := step.reading report
      match result, step.ignoresFailure with
      | .error failure, false => .done (record.add result) (.error failure)
      | _, _ => Body.ofSteps ending rest (record.add result)

def stepsBody {α β : Type} (steps : List (Step β)) (ending : Except Failure α)
    (record : StepRecord β) : Body (StepRecord β) α :=
  Body.ofSteps ending steps { record with runs := record.runs + 1 }

end BoundSql
