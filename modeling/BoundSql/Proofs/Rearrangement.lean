import BoundSql.Proofs.ChangeContributions
import BoundSql.Proofs.IndependentCalls

/-! # Rearranged programs

A query depends on what each clause of each part received, not on how the calls were
mixed or how much each of them brought along.  Calls of different clauses may change
places, a list may be given piece by piece, and so it is in everything that is built
inside a call. -/
set_option autoImplicit false
namespace BoundSql

/-- The calls that bring along a list: of terms, of rows of values, or of the calls that
build a condition. -/
inductive Batches : (b : Builder) → (X : Type) → (List X → b.Call) → Prop
  | distinctOn : Batches .distinct Term fun columns => columns
  | columns : Batches .select Term SelectCall.columns
  | sources : Batches .select Term SelectCall.sources
  | groupBy : Batches .select Term SelectCall.groupBy
  | filter : Batches .select ConditionCall SelectCall.filter
  | having : Batches .select ConditionCall SelectCall.having
  | on : Batches .join ConditionCall JoinCall.on
  | usingColumns : Batches .join Term JoinCall.usingColumns
  | values : Batches .assignment Term AssignmentCall.to
  | rawValues : Batches .assignment Term AssignmentCall.toRaw
  | updateSources : Batches .update Term UpdateCall.sources
  | updateFilter : Batches .update ConditionCall UpdateCall.filter
  | updateReturning : Batches .update Term UpdateCall.returning
  | conflictFilter : Batches .conflict ConditionCall ConflictCall.filter
  | insertColumns : Batches .insert Term InsertCall.columns
  | rows : Batches .insert (List Term) InsertCall.values
  | insertReturning : Batches .insert Term InsertCall.returning
  | deleteFilter : Batches .delete ConditionCall DeleteCall.filter
  | deleteReturning : Batches .delete Term DeleteCall.returning

section Batching
variable {b : Builder} {X : Type} {make : List X → b.Call}

theorem Batches.apply_append (h : Batches b X make) (first second : List X) (s : b.State) :
    b.apply (make (first ++ second)) s = b.apply (make second) (b.apply (make first) s) := by
  cases h <;>
    simp [Builder.apply, SelectCall.apply, JoinCall.apply, AssignmentCall.apply, UpdateCall.apply,
      ConflictCall.apply, InsertCall.apply, DeleteCall.apply, ConditionCall.applyAll_append,
      Select.addColumns, Select.addSources, Select.addGroupBy, Assignment.addValues,
      Update.addSources, Update.addReturning, Insert.addColumns, Insert.addRows,
      Insert.addReturning, Delete.addReturning]

/-- One call with a list does what calls with the pieces of the list do. -/
theorem Batches.run_flatten (h : Batches b X make) {pieces : List (List X)} (nonempty : pieces ≠ [])
    (s : b.State) : b.apply (make pieces.flatten) s = b.run (pieces.map make) s := by
  induction pieces generalizing s with
  | nil => exact absurd rfl nonempty
  | cons first rest ih =>
    rw [List.map_cons, Builder.run_cons]
    by_cases last : rest = []
    · subst last
      simp
    · rw [List.flatten_cons, h.apply_append, ih last]

end Batching

/-- The calls that hold what is built by calls of their own. -/
inductive Holds : (outer inner : Builder) → (List inner.Call → outer.Call) → Prop
  | inSelect (left : Term) : Holds .condition .select (.inSelect left)
  | stepwiseSelect (left : Operand) (operator : ListOperator) :
    Holds .condition .select (.stepwiseSelect left operator)
  | not : Holds .condition .condition .not
  | chained (connective : Connective) : Holds .condition .condition (.chained connective)
  | on : Holds .join .condition .on
  | distinct : Holds .select .distinct .distinct
  | columnSelect (name : String) : Holds .select .select (.columnSelect · name)
  | sourceSelect (name : String) : Holds .select .select (.sourceSelect · name)
  | join (kind : JoinKind) (target : Term) : Holds .select .join (.join kind target)
  | joinedSelect (kind : JoinKind) (lateral : Bool) (name : String) (ties : List JoinCall) :
    Holds .select .select (.joinSelect kind lateral · name ties)
  | joinSelect (kind : JoinKind) (lateral : Bool) (select : List SelectCall) (name : String) :
    Holds .select .join (.joinSelect kind lateral select name)
  | joinedUnion (kind : JoinKind) (name : String) (ties : List JoinCall) :
    Holds .select .union (.joinUnion kind · name ties)
  | joinUnion (kind : JoinKind) (union : List UnionCall) (name : String) :
    Holds .select .join (.joinUnion kind union name)
  | filter : Holds .select .condition .filter
  | having : Holds .select .condition .having
  | unitedSelect (keepAll : Bool) : Holds .union .select (.select keepAll)
  | unitedUnion (keepAll : Bool) : Holds .union .union (.union keepAll)
  | assigned : Holds .assignment .select .select
  | set (columns : List Term) : Holds .update .assignment (.set columns)
  | updateJoin (kind : JoinKind) (target : Term) : Holds .update .join (.join kind target)
  | updateFilter : Holds .update .condition .filter
  | conflictFilter : Holds .conflict .condition .filter
  | doUpdate : Holds .conflict .update .doUpdate
  | inserted : Holds .insert .select .select
  | onConflict (columns : List Term) : Holds .insert .conflict (.onConflict columns)
  | onConflictOnConstraint (name : Term) :
    Holds .insert .conflict (.onConflictOnConstraint name)
  | deleteFilter : Holds .delete .condition .filter

/-- What a call does depends on what is built inside it, not on how that is built. -/
theorem Holds.apply_congr {outer inner : Builder} {make : List inner.Call → outer.Call}
    (h : Holds outer inner make) {xs ys : List inner.Call}
    (agree : ∀ s, inner.run xs s = inner.run ys s) (s : outer.State) :
    outer.apply (make xs) s = outer.apply (make ys) s := by
  have made : ∀ s, inner.applyAll xs s = inner.applyAll ys s := by
    simpa only [Builder.applyAll_eq_run] using agree
  cases h with
  | distinct =>
    have flat : xs.flatten = ys.flatten := made []
    simp only [Builder.apply, SelectCall.apply, flat]
  | set columns => exact congrArg s.addAssignment (agree { columns })
  | doUpdate =>
    exact congrArg (fun u => { s with action := some (.update u) }) (agree {})
  | onConflict columns =>
    exact congrArg (fun c => { s with conflict := some c }) (agree { target := .columns columns })
  | onConflictOnConstraint name =>
    exact congrArg (fun c => { s with conflict := some c }) (agree { target := .constraint name })
  | _ =>
    simp only [Builder.applyAll] at made
    simp only [Builder.apply, ConditionCall.apply, JoinCall.apply, SelectCall.apply,
      UnionCall.apply, AssignmentCall.apply, UpdateCall.apply, ConflictCall.apply,
      InsertCall.apply, DeleteCall.apply, made]

/-- The same calls for each clause, in other places, in other pieces, and with other such
calls inside. -/
inductive Rearranged : (b : Builder) → List b.Call → List b.Call → Prop
  | interleaved {b : Builder} {xs ys : List b.Call}
      (agree : ∀ k, b.received k xs = b.received k ys) : Rearranged b xs ys
  | batched {b : Builder} {X : Type} {make : List X → b.Call} (h : Batches b X make)
      (pieces : List (List X)) (nonempty : pieces ≠ []) (before after : List b.Call) :
      Rearranged b (before ++ make pieces.flatten :: after) (before ++ pieces.map make ++ after)
  | inside {outer inner : Builder} {make : List inner.Call → outer.Call}
      (h : Holds outer inner make) {xs ys : List inner.Call} (held : Rearranged inner xs ys)
      (before after : List outer.Call) :
      Rearranged outer (before ++ make xs :: after) (before ++ make ys :: after)
  | symm {b : Builder} {xs ys : List b.Call} (h : Rearranged b xs ys) : Rearranged b ys xs
  | trans {b : Builder} {xs ys zs : List b.Call} (h : Rearranged b xs ys)
      (k : Rearranged b ys zs) : Rearranged b xs zs

theorem Rearranged.run_eq {b : Builder} {xs ys : List b.Call} (h : Rearranged b xs ys)
    (s : b.State) : b.run xs s = b.run ys s := by
  induction h with
  | interleaved agree => exact Builder.run_congr _ agree s
  | @batched b X make h pieces nonempty before after =>
    rw [b.run_append, b.run_cons, h.run_flatten nonempty, ← b.run_append, ← b.run_append,
      List.append_assoc]
  | @inside outer inner make h xs ys _ before after ih =>
    rw [outer.run_append, outer.run_append, outer.run_cons, outer.run_cons, h.apply_congr ih]
  | symm h ih => exact (ih s).symm
  | trans h k ih ik => exact (ih s).trans (ik s)

theorem Rearranged.applyAll_eq {b : Builder} {xs ys : List b.Call} (h : Rearranged b xs ys)
    (s : b.State) : b.applyAll xs s = b.applyAll ys s := by
  rw [b.applyAll_eq_run, b.applyAll_eq_run, h.run_eq]

inductive Program.Rearranged : Program → Program → Prop
  | select {xs ys : List SelectCall} (h : BoundSql.Rearranged .select xs ys) :
    Program.Rearranged (.select xs) (.select ys)
  | insert {xs ys : List InsertCall} (h : BoundSql.Rearranged .insert xs ys) :
    Program.Rearranged (.insert xs) (.insert ys)
  | update {xs ys : List UpdateCall} (h : BoundSql.Rearranged .update xs ys) :
    Program.Rearranged (.update xs) (.update ys)
  | delete {xs ys : List DeleteCall} (h : BoundSql.Rearranged .delete xs ys) :
    Program.Rearranged (.delete xs) (.delete ys)
  | union {xs ys : List UnionCall} (h : BoundSql.Rearranged .union xs ys) :
    Program.Rearranged (.union xs) (.union ys)

/-- Rearranged programs build the same query: its text and its arguments depend on what
each clause received. -/
theorem query_of_rearranged {p q : Program} (h : p.Rearranged q) : p.query = q.query := by
  have terms : p.terms = q.terms := by
    cases h with
    | select h => exact congrArg Select.terms (h.applyAll_eq {})
    | union h => exact congrArg Union.terms (h.applyAll_eq {})
    | insert h => exact congrArg Insert.terms (h.applyAll_eq {})
    | update h => exact congrArg Update.terms (h.applyAll_eq {})
    | delete h => exact congrArg Delete.terms (h.applyAll_eq {})
  rw [Program.query, Program.query, terms]

def grownUps : List SelectCall :=
  [.columns [.word "id", .word "name"], .sources [.word "users"],
    .filter [.compare (.word "age") .ge (.literal (.int4 18)), .mode .or, .isNull (.word "age")],
    .limit 5]

def grownUpsInPieces : List SelectCall :=
  [.limit 5, .columns [.word "id"],
    .filter [.mode .or, .compare (.word "age") .ge (.literal (.int4 18))],
    .columns [.word "name"], .sources [.word "users"], .filter [.isNull (.word "age")]]

theorem rearranged_grownUps : Rearranged .select grownUps grownUpsInPieces := by
  have mode : Rearranged .condition
      [.compare (.word "age") .ge (.literal (.int4 18)), .mode .or, .isNull (.word "age")]
      [.mode .or, .compare (.word "age") .ge (.literal (.int4 18)), .isNull (.word "age")] :=
    .interleaved fun k => by cases k <;> rfl
  -- the columns in two pieces, the mode first, and then the filter in two pieces
  refine (Rearranged.batched .columns [[.word "id"], [.word "name"]] (by simp) []
    (grownUps.drop 1)).trans ?_
  refine (mode.inside .filter
    [.columns [.word "id"], .columns [.word "name"], .sources [.word "users"]] [.limit 5]).trans ?_
  refine (Rearranged.batched .filter
    [[.mode .or, .compare (.word "age") .ge (.literal (.int4 18))], [.isNull (.word "age")]]
    (by simp) [.columns [.word "id"], .columns [.word "name"], .sources [.word "users"]]
    [.limit 5]).trans ?_
  exact .interleaved fun k => by cases k <;> rfl

theorem query_of_rearranged_grownUps :
    (Program.select grownUps).Rearranged (.select grownUpsInPieces) ∧
      (Program.select grownUps).query = (Program.select grownUpsInPieces).query :=
  ⟨.select rearranged_grownUps, query_of_rearranged (.select rearranged_grownUps)⟩

end BoundSql
