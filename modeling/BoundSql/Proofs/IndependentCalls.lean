import BoundSql.Proofs.Contributions

/-! # Calls of different clauses

Everything that is built by calls is built in the same way: each call speaks of one clause
and changes what is kept for that clause alone.  So calls of different clauses may change
places, and what is built is settled by the calls that each clause received, in their
order. -/
set_option autoImplicit false
namespace BoundSql

/-- What is built by calls.  The columns that decide which rows are distinct are given by
calls of their own, each with a list. -/
inductive Builder
  | condition
  | join
  | distinct
  | select
  | union
  | assignment
  | update
  | conflict
  | insert
  | delete

abbrev Builder.Call : Builder → Type
  | .condition => ConditionCall
  | .join => JoinCall
  | .distinct => List Term
  | .select => SelectCall
  | .union => UnionCall
  | .assignment => AssignmentCall
  | .update => UpdateCall
  | .conflict => ConflictCall
  | .insert => InsertCall
  | .delete => DeleteCall

abbrev Builder.State : Builder → Type
  | .condition => Condition
  | .join => Join
  | .distinct => List Term
  | .select => Select
  | .union => Union
  | .assignment => Assignment
  | .update => Update
  | .conflict => Conflict
  | .insert => Insert
  | .delete => Delete

def Builder.apply : (b : Builder) → b.Call → b.State → b.State
  | .condition => ConditionCall.apply
  | .join => JoinCall.apply
  | .distinct => fun columns on => on ++ columns
  | .select => SelectCall.apply
  | .union => UnionCall.apply
  | .assignment => AssignmentCall.apply
  | .update => UpdateCall.apply
  | .conflict => ConflictCall.apply
  | .insert => InsertCall.apply
  | .delete => DeleteCall.apply

def Builder.run (b : Builder) (calls : List b.Call) (s : b.State) : b.State :=
  calls.foldl (fun s call => b.apply call s) s

@[simp] theorem Builder.run_nil (b : Builder) (s : b.State) : b.run [] s = s := rfl

theorem Builder.run_cons (b : Builder) (call : b.Call) (rest : List b.Call) (s : b.State) :
    b.run (call :: rest) s = b.run rest (b.apply call s) := rfl

theorem Builder.run_append (b : Builder) (first second : List b.Call) (s : b.State) :
    b.run (first ++ second) s = b.run second (b.run first s) := List.foldl_append

def Builder.applyAll : (b : Builder) → List b.Call → b.State → b.State
  | .condition => ConditionCall.applyAll
  | .join => JoinCall.applyAll
  | .distinct => fun calls on => on ++ calls.flatten
  | .select => SelectCall.applyAll
  | .union => UnionCall.applyAll
  | .assignment => Builder.assignment.run
  | .update => Builder.update.run
  | .conflict => Builder.conflict.run
  | .insert => Builder.insert.run
  | .delete => Builder.delete.run

theorem Builder.applyAll_eq_run (b : Builder) (calls : List b.Call) (s : b.State) :
    b.applyAll calls s = b.run calls s := by
  induction calls generalizing s with
  | nil =>
    cases b with
    | distinct => exact List.append_nil s
    | _ => rfl
  | cons call rest ih =>
    rw [run_cons, ← ih]
    cases b with
    | distinct => exact (List.append_assoc s call rest.flatten).symm
    | _ => rfl

inductive Clause
  | own
  | chain
  | mode
  | on
  | usingColumns
  | distinct
  | columns
  | sources
  | joins
  | filter
  | groupBy
  | having
  | orderBy
  | limit
  | offset
  | parts
  | values
  | table
  | set
  | cursor
  | returning
  | action
  | overriding
  | defaultValues
  | rows
  | select
  | conflict
deriving DecidableEq

def ConditionCall.clause : ConditionCall → Clause
  | .chained _ _ => .chain
  | .mode _ => .mode
  | _ => .own

def JoinCall.clause : JoinCall → Clause
  | .on _ => .on
  | .usingColumns _ => .usingColumns

def SelectCall.clause : SelectCall → Clause
  | .distinct _ => .distinct
  | .columns _ => .columns
  | .columnSelect _ _ => .columns
  | .sources _ => .sources
  | .sourceSelect _ _ => .sources
  | .sourceValues _ _ => .sources
  | .join _ _ _ => .joins
  | .joinSelect _ _ _ _ _ => .joins
  | .joinUnion _ _ _ _ => .joins
  | .filter _ => .filter
  | .groupBy _ => .groupBy
  | .having _ => .having
  | .orderBy _ _ => .orderBy
  | .limit _ => .limit
  | .offset _ => .offset

def UnionCall.clause : UnionCall → Clause
  | .select _ _ => .parts
  | .union _ _ => .parts
  | .orderBy _ _ => .orderBy
  | .limit _ => .limit
  | .offset _ => .offset

def UpdateCall.clause : UpdateCall → Clause
  | .table _ => .table
  | .set _ _ => .set
  | .sources _ => .sources
  | .join _ _ _ => .joins
  | .filter _ => .filter
  | .whereCurrentOf _ => .cursor
  | .returning _ => .returning

def ConflictCall.clause : ConflictCall → Clause
  | .filter _ => .filter
  | .doNothing => .action
  | .doUpdate _ => .action

def InsertCall.clause : InsertCall → Clause
  | .into _ => .table
  | .columns _ => .columns
  | .overriding _ => .overriding
  | .defaultValues => .defaultValues
  | .value _ => .rows
  | .values _ => .rows
  | .select _ => .select
  | .onConflict _ _ => .conflict
  | .onConflictOnConstraint _ _ => .conflict
  | .returning _ => .returning

def DeleteCall.clause : DeleteCall → Clause
  | .table _ => .table
  | .filter _ => .filter
  | .returning _ => .returning

def Builder.clause : (b : Builder) → b.Call → Clause
  | .condition => ConditionCall.clause
  | .join => JoinCall.clause
  | .distinct => fun _ => .on
  | .select => SelectCall.clause
  | .union => UnionCall.clause
  | .assignment => fun _ => .values
  | .update => UpdateCall.clause
  | .conflict => ConflictCall.clause
  | .insert => InsertCall.clause
  | .delete => DeleteCall.clause

section Conditions
variable {call : ConditionCall}

theorem ConditionCall.entry_of_clause (other : call.clause ≠ .own) : call.entry = [] := by
  cases call with
  | chained connective inner => rfl
  | mode connective => rfl
  | _ => exact absurd rfl other

theorem ConditionCall.link_of_clause (other : call.clause ≠ .chain) : call.link = [] := by
  cases call with
  | chained connective inner => exact absurd rfl other
  | _ => rfl

theorem ConditionCall.chooseMode_of_clause (other : call.clause ≠ .mode) (m : Connective) :
    call.chooseMode m = m := by
  cases call with
  | mode connective => exact absurd rfl other
  | _ => rfl

end Conditions

theorem append_comm_of_nil {α : Type} {first second : List α} (h : first = [] ∨ second = []) :
    first ++ second = second ++ first := by
  rcases h with rfl | rfl <;> simp

theorem ConditionCall.apply_comm {a c : ConditionCall} (differ : a.clause ≠ c.clause)
    (s : Condition) : a.apply (c.apply s) = c.apply (a.apply s) := by
  -- of two calls of different clauses at most one speaks of any clause
  have apart : ∀ k, a.clause ≠ k ∨ c.clause ≠ k := by
    intro k
    by_cases first : a.clause = k
    · exact Or.inr fun other => differ (first.trans other.symm)
    · exact Or.inl first
  have entries := append_comm_of_nil ((apart .own).imp entry_of_clause entry_of_clause)
  have links := append_comm_of_nil ((apart .chain).imp link_of_clause link_of_clause)
  have modes : a.chooseMode (c.chooseMode s.mode) = c.chooseMode (a.chooseMode s.mode) := by
    rcases apart .mode with other | other
    · rw [chooseMode_of_clause other, chooseMode_of_clause other]
    · rw [chooseMode_of_clause other, chooseMode_of_clause other]
  simp only [ConditionCall.apply_eq, List.append_assoc, entries, links, modes]

/-- Calls of different clauses may change places. -/
theorem Builder.apply_comm (b : Builder) {call other : b.Call}
    (differ : b.clause call ≠ b.clause other) (s : b.State) :
    b.apply call (b.apply other s) = b.apply other (b.apply call s) := by
  cases b with
  | condition => exact ConditionCall.apply_comm differ s
  | distinct => exact absurd rfl differ
  | assignment => exact absurd rfl differ
  | _ =>
    -- two calls change fields of their own, or they are of the same clause
    cases call <;> cases other <;> first | rfl | exact absurd rfl differ

/-- The calls that speak of a clause, in the order in which they are made. -/
def Builder.received (b : Builder) (k : Clause) (calls : List b.Call) : List b.Call :=
  calls.filter fun call => b.clause call = k

theorem Builder.received_cons_of (b : Builder) {k : Clause} {call : b.Call}
    (spoken : b.clause call = k) (rest : List b.Call) :
    b.received k (call :: rest) = call :: b.received k rest :=
  List.filter_cons_of_pos (by simpa using spoken)

theorem Builder.received_cons_other (b : Builder) {k : Clause} {call : b.Call}
    (other : b.clause call ≠ k) (rest : List b.Call) :
    b.received k (call :: rest) = b.received k rest :=
  List.filter_cons_of_neg (by simpa using other)

theorem Builder.received_append (b : Builder) (k : Clause) (first second : List b.Call) :
    b.received k (first ++ second) = b.received k first ++ b.received k second :=
  List.filter_append first second

theorem Builder.received_eq_nil (b : Builder) {k : Clause} {calls : List b.Call}
    (others : ∀ call ∈ calls, b.clause call ≠ k) : b.received k calls = [] := by
  rw [received, List.filter_eq_nil_iff]
  simpa using others

/-- A call may be made before others that speak of other clauses. -/
theorem Builder.run_past (b : Builder) {call : b.Call} {before : List b.Call}
    (others : ∀ other ∈ before, b.clause other ≠ b.clause call) (after : List b.Call)
    (s : b.State) : b.run (before ++ call :: after) s = b.run (call :: (before ++ after)) s := by
  induction before generalizing s with
  | nil => rfl
  | cons other rest ih =>
    rw [List.forall_mem_cons] at others
    calc b.run (other :: rest ++ call :: after) s
        = b.run (call :: (rest ++ after)) (b.apply other s) := ih others.2 (b.apply other s)
      _ = b.run (rest ++ after) (b.apply call (b.apply other s)) := rfl
      _ = b.run (rest ++ after) (b.apply other (b.apply call s)) := by
        rw [b.apply_comm (Ne.symm others.1)]

/-- Where a clause received a call first, the call stands behind calls of other clauses,
and without it the clauses received the rest. -/
theorem Builder.exists_split (b : Builder) {call : b.Call} {rest calls : List b.Call}
    (agree : ∀ k, b.received k (call :: rest) = b.received k calls) :
    ∃ before after, calls = before ++ call :: after ∧
      (∀ other ∈ before, b.clause other ≠ b.clause call) ∧
      ∀ k, b.received k rest = b.received k (before ++ after) := by
  have own := agree (b.clause call)
  rw [b.received_cons_of rfl, eq_comm, received, List.filter_eq_cons_iff] at own
  obtain ⟨before, after, rfl, passed, -, -⟩ := own
  have others : ∀ other ∈ before, b.clause other ≠ b.clause call := by simpa using passed
  refine ⟨before, after, rfl, others, ?_⟩
  intro k
  have here := agree k
  rw [received_append] at here ⊢
  by_cases spoken : b.clause call = k
  · have unreceived : b.received k before = [] := b.received_eq_nil (spoken ▸ others)
    rw [b.received_cons_of spoken, b.received_cons_of spoken, unreceived, List.nil_append] at here
    rw [unreceived, List.nil_append]
    exact (List.cons.inj here).2
  · rwa [b.received_cons_other spoken, b.received_cons_other spoken] at here

/-- What is built is settled by the calls that each clause received. -/
theorem Builder.run_congr (b : Builder) {xs ys : List b.Call}
    (agree : ∀ k, b.received k xs = b.received k ys) (s : b.State) : b.run xs s = b.run ys s := by
  induction xs generalizing ys s with
  | nil =>
    cases ys with
    | nil => rfl
    | cons call rest =>
      have own := agree (b.clause call)
      rw [b.received_cons_of rfl] at own
      exact absurd own (by simp [received])
  | cons call rest ih =>
    -- the first call is made first on the other side too, past calls of other clauses
    obtain ⟨before, after, rfl, others, remaining⟩ := b.exists_split agree
    rw [b.run_past others after s, run_cons, run_cons]
    exact ih remaining (b.apply call s)

end BoundSql
