import Mathlib.Data.List.Perm.Basic
import BoundSql.Proofs.Contributions

/-! # Completed predicates

A call completes a predicate unless it is a closure, a choice of the mode, or a
predicate whose right side was never given.  Closures count by what is completed in
them, however deep.  A condition is empty exactly when nothing is completed in it,
save memberships in no values under an operator of which nothing is known. -/
set_option autoImplicit false
namespace BoundSql

def PredicateTail.isFinished : PredicateTail → Bool
  | .unfinished | .compare _ none | .member _ none => false
  | _ => true

def PredicateTail.isVoid : PredicateTail → Bool
  | .member operator (some (.values ts)) | .member operator (some (.raws ts)) =>
    ts.isEmpty && operator.text != "in" && operator.text != "not in"
  | _ => false

def ConditionCall.completes : ConditionCall → Bool
  | .stepwise _ tail => tail.isFinished
  | .not _ | .chained _ _ | .mode _ => false
  | _ => true

def ConditionCall.isVoid : ConditionCall → Bool
  | .stepwise _ tail => tail.isVoid
  | _ => false

mutual

/-- The calls of a closure at any depth that are no closures themselves. -/
def ConditionCall.leaves : ConditionCall → List ConditionCall
  | .not inner => ConditionCall.leavesAll inner
  | .chained _ inner => ConditionCall.leavesAll inner
  | call => [call]

def ConditionCall.leavesAll : List ConditionCall → List ConditionCall
  | [] => []
  | call :: rest => call.leaves ++ ConditionCall.leavesAll rest

end

/-- The predicates that are completed at any depth. -/
def completed (calls : List ConditionCall) : List Predicate :=
  (ConditionCall.leavesAll calls).filterMap ConditionCall.predicate?

theorem memberPredicate?_isSome (left : Term) (operator : String) (values : List Term) :
    (memberPredicate? left operator values).isSome =
      !(values.isEmpty && operator != "in" && operator != "not in") := by
  rw [memberPredicate?]
  by_cases empty : values.isEmpty = true
  · by_cases isIn : operator = "in"
    · simp [empty, isIn]
    · by_cases notIn : operator = "not in"
      · simp [empty, notIn]
      · simp [empty, isIn, notIn]
  · simp [empty]

theorem PredicateTail.predicate?_isSome (tail : PredicateTail) (left : Term) :
    (tail.predicate? left).isSome = (tail.isFinished && !tail.isVoid) := by
  cases tail with
  | unfinished => rfl
  | compare operator right => cases right <;> rfl
  | member operator right =>
    cases right with
    | none => rfl
    | some right =>
      cases right with
      | values ts => simp [predicate?, isFinished, isVoid, memberPredicate?_isSome]
      | raws ts => simp [predicate?, isFinished, isVoid, memberPredicate?_isSome]
      | field t => rfl
  | isNull => rfl
  | isNotNull => rfl

/-- A call adds a predicate exactly when it completes one of which something is known. -/
theorem ConditionCall.predicate?_isSome (call : ConditionCall) :
    call.predicate?.isSome = (call.completes && !call.isVoid) := by
  cases call with
  | isIn left values => simp [predicate?, completes, isVoid, memberPredicate?_isSome]
  | isInRaw left values => simp [predicate?, completes, isVoid, memberPredicate?_isSome]
  | notIn left values => simp [predicate?, completes, isVoid, memberPredicate?_isSome]
  | notInRaw left values => simp [predicate?, completes, isVoid, memberPredicate?_isSome]
  | stepwise left tail => exact tail.predicate?_isSome left.term
  | _ => rfl

theorem completed_eq_nil_iff (calls : List ConditionCall) :
    completed calls = [] ↔
      ∀ call ∈ ConditionCall.leavesAll calls, (call.completes && !call.isVoid) = false := by
  rw [completed, List.filterMap_eq_nil_iff]
  refine forall₂_congr fun call _ => ?_
  rw [← call.predicate?_isSome, Option.isSome_eq_false_iff, Option.isNone_iff_eq_none]

theorem completed_map_some (calls : List ConditionCall) :
    (completed calls).map some =
      ((ConditionCall.leavesAll calls).filter fun call => call.completes && !call.isVoid).map
        ConditionCall.predicate? := by
  rw [completed, List.map_filterMap_some_eq_filter_map_isSome, List.filter_map]
  refine congrArg _ (List.filter_congr fun call _ => ?_)
  exact call.predicate?_isSome

theorem ConditionCall.leavesAll_eq (calls : List ConditionCall) :
    ConditionCall.leavesAll calls = calls.flatMap ConditionCall.leaves := by
  induction calls with
  | nil => rfl
  | cons call rest ih => rw [leavesAll, ih, List.flatMap_cons]

theorem completed_append (first second : List ConditionCall) :
    completed (first ++ second) = completed first ++ completed second := by
  simp [completed, ConditionCall.leavesAll_eq]

/-- The predicates that a call leaves among the entries of its condition. -/
def ConditionCall.own : ConditionCall → List Predicate
  | .not inner => completed inner
  | call => call.predicate?.toList

/-- The predicates that a call leaves in the chain of its condition. -/
def ConditionCall.linked : ConditionCall → List Predicate
  | .chained _ inner => completed inner
  | _ => []

theorem completed_cons (call : ConditionCall) (rest : List ConditionCall) :
    completed (call :: rest) = call.own ++ call.linked ++ completed rest := by
  have one : call.leaves.filterMap ConditionCall.predicate? = call.own ++ call.linked := by
    cases call with
    | not inner => exact (List.append_nil _).symm
    | chained connective inner => rfl
    | _ =>
      rw [List.filterMap_eq_flatMap_toList]
      exact List.flatMap_singleton _ _ |>.trans (List.append_nil _).symm
  rw [completed, ConditionCall.leavesAll, List.filterMap_append, one, completed]

/-- The entries and the chain share the completed predicates. -/
theorem completed_perm (calls : List ConditionCall) :
    (calls.flatMap ConditionCall.own ++ calls.flatMap ConditionCall.linked).Perm
      (completed calls) := by
  have rows : completed calls = calls.flatMap fun call => call.own ++ call.linked := by
    induction calls with
    | nil => rfl
    | cons call rest ih => rw [completed_cons, ih, List.flatMap_cons]
  rw [rows]
  exact List.flatMap_append_perm calls _ _

mutual

theorem ConditionCall.entry_eq_nil_iff (call : ConditionCall) :
    call.entry = [] ↔ call.own = [] := by
  cases call with
  | not inner =>
    have empty := Condition.isEmpty_build_iff_completed inner
    rw [ConditionCall.entry, ConditionCall.own, ← empty]
    split <;> simp_all
  | _ => simp [ConditionCall.entry, ConditionCall.own]

theorem ConditionCall.link_eq_nil_iff (call : ConditionCall) :
    call.link = [] ↔ call.linked = [] := by
  cases call with
  | chained connective inner =>
    have empty := Condition.isEmpty_build_iff_completed inner
    rw [ConditionCall.link, ConditionCall.linked, ← empty]
    split <;> simp_all
  | _ => simp [ConditionCall.link, ConditionCall.linked]

theorem Condition.isEmpty_build_iff_completed (calls : List ConditionCall) :
    (Condition.build calls).isEmpty = true ↔ completed calls = [] := by
  cases calls with
  | nil => exact ⟨fun _ => rfl, fun _ => rfl⟩
  | cons call rest =>
    have later := Condition.isEmpty_build_iff_completed rest
    rw [Condition.isEmpty_build_iff] at later ⊢
    rw [completed_cons, List.append_eq_nil_iff, List.append_eq_nil_iff, ← later,
      ← call.entry_eq_nil_iff, ← call.link_eq_nil_iff, List.forall_mem_cons]

end

/-- Nothing is left of calls that complete nothing, unless they choose the mode. -/
theorem contributions_idle {calls : List ConditionCall} (idle : completed calls = []) :
    calls.flatMap ConditionCall.entry = [] ∧ calls.flatMap ConditionCall.link = [] := by
  have empty := (Condition.isEmpty_build_iff_completed calls).mpr idle
  rw [Condition.isEmpty_build_iff] at empty
  exact ⟨List.flatMap_eq_nil_iff.mpr fun call member => (empty call member).1,
    List.flatMap_eq_nil_iff.mpr fun call member => (empty call member).2⟩

end BoundSql
