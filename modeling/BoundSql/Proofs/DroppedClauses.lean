import BoundSql.Proofs.Rearrangement

/-! # Programs without a clause

The calls that speak of one clause are the only ones that change it, and they change
nothing else.  So a program without these calls builds what the whole program builds,
with the clause as it was in the beginning. -/
set_option autoImplicit false
namespace BoundSql

/-- The calls that speak of other clauses. -/
def Builder.besides (b : Builder) (k : Clause) (calls : List b.Call) : List b.Call :=
  calls.filter fun call => b.clause call ≠ k

theorem Builder.besides_idempotent (b : Builder) (k : Clause) (calls : List b.Call) :
    b.besides k (b.besides k calls) = b.besides k calls := by
  simp [besides]

section Reset
variable (b : Builder) (k : Clause) (reset : b.State → b.State)
  (own : ∀ s call, b.clause call = k → reset (b.apply call s) = reset s)
  (other : ∀ s call, b.clause call ≠ k → reset (b.apply call s) = b.apply call (reset s))
include own other

/-- Where the calls of a clause change nothing but what is reset, and the others do not
touch it, the calls besides them lead from the reset start to the reset end. -/
theorem Builder.run_besides_reset (calls : List b.Call) (s : b.State) :
    b.run (b.besides k calls) (reset s) = reset (b.run calls s) := by
  induction calls generalizing s with
  | nil => rfl
  | cons call rest ih =>
    rw [run_cons, ← ih, besides]
    by_cases spoken : b.clause call = k
    · rw [List.filter_cons_of_neg (by simpa using spoken), own s call spoken]
      rfl
    · rw [List.filter_cons_of_pos (by simpa using spoken), run_cons, other s call spoken]
      rfl

theorem Builder.run_besides (calls : List b.Call) {s : b.State} (start : reset s = s) :
    b.run (b.besides k calls) s = reset (b.run calls s) := by
  have run := b.run_besides_reset k reset own other calls s
  rwa [start] at run

end Reset

def Select.without (s : Select) : Clause → Select
  | .distinct => { s with distinct := none }
  | .columns => { s with columns := [] }
  | .sources => { s with sources := [] }
  | .joins => { s with joins := [] }
  | .filter => { s with filter := {} }
  | .groupBy => { s with groupBy := [] }
  | .having => { s with having := {} }
  | .orderBy => { s with paging := { s.paging with order := [] } }
  | .limit => { s with paging := { s.paging with limit := none } }
  | .offset => { s with paging := { s.paging with offset := none } }
  | _ => s

def Update.without (u : Update) : Clause → Update
  | .table => { u with table := none }
  | .set => { u with assignments := [] }
  | .sources => { u with sources := [] }
  | .joins => { u with joins := [] }
  | .filter => { u with filter := {} }
  | .cursor => { u with cursor := none }
  | .returning => { u with returning := [] }
  | _ => u

def Conflict.without (c : Conflict) : Clause → Conflict
  | .filter => { c with filter := {} }
  | .action => { c with action := none }
  | _ => c

def Insert.without (i : Insert) : Clause → Insert
  | .table => { i with table := none }
  | .columns => { i with columns := [] }
  | .overriding => { i with overriding := none }
  | .defaultValues => { i with defaultValues := false }
  | .rows => { i with rows := [] }
  | .select => { i with select := none }
  | .conflict => { i with conflict := none }
  | .returning => { i with returning := [] }
  | _ => i

def Delete.without (d : Delete) : Clause → Delete
  | .table => { d with table := none }
  | .filter => { d with filter := {} }
  | .returning => { d with returning := [] }
  | _ => d

theorem Select.build_besides (k : Clause) (calls : List SelectCall) :
    Select.build (Builder.select.besides k calls) = (Select.build calls).without k := by
  have run (made : List SelectCall) : Select.build made = Builder.select.run made {} :=
    Builder.select.applyAll_eq_run made {}
  rw [run, run]
  refine Builder.select.run_besides k (·.without k) ?_ ?_ calls (by cases k <;> rfl)
  · intro s call own
    cases own
    cases call <;> rfl
  · intro s call other
    cases call <;> cases k <;> first | rfl | exact absurd rfl other

theorem Update.build_besides (k : Clause) (calls : List UpdateCall) :
    Update.build (Builder.update.besides k calls) = (Update.build calls).without k := by
  refine Builder.update.run_besides k (·.without k) ?_ ?_ calls (by cases k <;> rfl)
  · intro u call own
    cases own
    cases call <;> rfl
  · intro u call other
    cases call <;> cases k <;> first | rfl | exact absurd rfl other

theorem Conflict.build_besides (k : Clause) (target : ConflictTarget) (calls : List ConflictCall) :
    Conflict.build target (Builder.conflict.besides k calls) =
      (Conflict.build target calls).without k := by
  refine Builder.conflict.run_besides k (·.without k) ?_ ?_ calls (by cases k <;> rfl)
  · intro c call own
    cases own
    cases call <;> rfl
  · intro c call other
    cases call <;> cases k <;> first | rfl | exact absurd rfl other

theorem Insert.build_besides (k : Clause) (calls : List InsertCall) :
    Insert.build (Builder.insert.besides k calls) = (Insert.build calls).without k := by
  refine Builder.insert.run_besides k (·.without k) ?_ ?_ calls (by cases k <;> rfl)
  · intro i call own
    cases own
    cases call <;> rfl
  · intro i call other
    cases call <;> cases k <;> first | rfl | exact absurd rfl other

theorem Delete.build_besides (k : Clause) (calls : List DeleteCall) :
    Delete.build (Builder.delete.besides k calls) = (Delete.build calls).without k := by
  refine Builder.delete.run_besides k (·.without k) ?_ ?_ calls (by cases k <;> rfl)
  · intro d call own
    cases own
    cases call <;> rfl
  · intro d call other
    cases call <;> cases k <;> first | rfl | exact absurd rfl other

end BoundSql
