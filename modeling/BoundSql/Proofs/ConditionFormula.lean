import BoundSql.Proofs.BooleanGrammar
import BoundSql.Proofs.Predicates

/-! # What a condition means

Read off the calls without any text: the entries of the local clause are joined
by the connective of the last call that chooses one, and the chained conditions
follow with their connectives, of which the first one is ignored where nothing
stands in front of it.  In such a row `and` binds tighter than `or`.  A condition
without entries and links means nothing, and leaves no entry and no link in the
condition around it. -/
set_option autoImplicit false
namespace BoundSql

def Predicate.formula : Predicate → Formula
  | .atom t => .atom t
  | .constant b => .constant b

def Connective.join : Connective → Formula → Formula → Formula
  | .and => .and
  | .or => .or

def ConditionCall.chooseMode (mode : Connective) : ConditionCall → Connective
  | .mode connective => connective
  | _ => mode

/-- The last call that chooses a connective for the local clause decides. -/
def lastMode (calls : List ConditionCall) : Connective :=
  calls.foldl ConditionCall.chooseMode .and

def sequence : Formula → List (Connective × Formula) → Formula
  | x, [] => x
  | x, (.and, y) :: rest => sequence (.and x y) rest
  | x, (.or, y) :: rest => .or x (sequence y rest)

def outline (mode : Connective) : List Formula → List (Connective × Formula) → Option Formula
  | x :: rest, links => some (sequence (rest.foldl mode.join x) links)
  | [], (_, x) :: links => some (sequence x links)
  | [], [] => none

mutual

def ConditionCall.entryFormula? : ConditionCall → Option Formula
  | .not inner =>
    (outline (lastMode inner) (ConditionCall.entries inner) (ConditionCall.links inner)).map .not
  | call => call.predicate?.map Predicate.formula

def ConditionCall.linkFormula? : ConditionCall → Option (Connective × Formula)
  | .chained connective inner =>
    (outline (lastMode inner) (ConditionCall.entries inner) (ConditionCall.links inner)).map
      fun x => (connective, x)
  | _ => none

def ConditionCall.entries : List ConditionCall → List Formula
  | [] => []
  | call :: rest => call.entryFormula?.toList ++ ConditionCall.entries rest

def ConditionCall.links : List ConditionCall → List (Connective × Formula)
  | [] => []
  | call :: rest => call.linkFormula?.toList ++ ConditionCall.links rest

end

def conditionFormula (calls : List ConditionCall) : Option Formula :=
  outline (lastMode calls) (ConditionCall.entries calls) (ConditionCall.links calls)

theorem Connective.atoms_join (c : Connective) (x y : Formula) :
    (c.join x y).atoms = x.atoms ++ y.atoms := by
  cases c <;> rfl

theorem atoms_sequence (x : Formula) (links : List (Connective × Formula)) :
    (sequence x links).atoms = x.atoms ++ links.flatMap fun l => l.2.atoms := by
  induction links generalizing x with
  | nil => simp [sequence]
  | cons l rest ih =>
    obtain ⟨c, y⟩ := l
    cases c with
    | and => simp [sequence, ih, Formula.atoms]
    | or => simp [sequence, ih, Formula.atoms]

theorem Connective.atoms_foldl_join (c : Connective) (x : Formula) (rest : List Formula) :
    (rest.foldl c.join x).atoms = x.atoms ++ rest.flatMap Formula.atoms := by
  induction rest generalizing x with
  | nil => simp
  | cons y rest ih => simp [ih, c.atoms_join]

/-- The atoms of the local clause stand before those of the chain. -/
theorem atoms_outline {mode : Connective} {entries : List Formula}
    {links : List (Connective × Formula)} {x : Formula}
    (h : outline mode entries links = some x) :
    x.atoms = entries.flatMap Formula.atoms ++ links.flatMap fun l => l.2.atoms := by
  cases entries with
  | cons y rest =>
    rw [outline, Option.some.injEq] at h
    rw [← h, atoms_sequence, mode.atoms_foldl_join, List.flatMap_cons]
  | nil =>
    cases links with
    | nil => simp [outline] at h
    | cons l rest =>
      rw [outline, Option.some.injEq] at h
      rw [← h, atoms_sequence]
      rfl

end BoundSql
