import BoundSql.Json

/-! # The depth of JSON values

How many arrays and objects stand inside each other. -/
set_option autoImplicit false
namespace BoundSql

mutual

def Json.depth : Json → Nat
  | .array items => Json.itemsDepth items + 1
  | .object entries => Json.entriesDepth entries + 1
  | _ => 0

def Json.itemsDepth : List Json → Nat
  | [] => 0
  | item :: rest => max item.depth (Json.itemsDepth rest)

def Json.entriesDepth : List (String × Json) → Nat
  | [] => 0
  | (_, value) :: rest => max value.depth (Json.entriesDepth rest)

end

end BoundSql
