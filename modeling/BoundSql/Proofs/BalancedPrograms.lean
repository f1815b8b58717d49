import BoundSql.Proofs.BalancedClauses

/-! # Balanced programs

What a program is given are terms, in the form in which they are written: a value that
will be bound has no text, and names and operators are words.  Calls that are given
balanced terms keep a statement balanced, through conditions, joins, sub-selects and
unions of any depth, so the statement that is built is balanced where everything given
is. -/
set_option autoImplicit false
namespace BoundSql

def PredicateTail.given : PredicateTail → List Term
  | .unfinished | .isNull | .isNotNull => []
  | .compare operator right => .word operator.text :: (right.map RightSide.term).toList
  | .member operator none => [.word operator.text]
  | .member operator (some (.values ts)) => .word operator.text :: ts.map Term.arg
  | .member operator (some (.raws ts)) => .word operator.text :: ts.map Term.raw
  | .member operator (some (.field t)) => [.word operator.text, t.raw]

mutual

def ConditionCall.given : ConditionCall → List Term
  | .compare left operator value => [left, .word operator.text, value.arg]
  | .compareRaw left operator value => [left, .word operator.text, value.raw]
  | .between left low high | .notBetween left low high => [left, low.arg, high.arg]
  | .isIn left values | .notIn left values => left :: values.map Term.arg
  | .isInRaw left values | .notInRaw left values => left :: values.map Term.raw
  | .inSelect left select => left :: SelectCall.givenAll select
  | .isNull left | .isNotNull left => [left]
  | .rawText sql => [.word sql]
  | .stepwise left tail => left.term :: tail.given
  | .stepwiseSelect left operator select =>
    left.term :: .word operator.text :: SelectCall.givenAll select
  | .not inner | .chained _ inner => ConditionCall.givenAll inner
  | .mode _ => []

def ConditionCall.givenAll : List ConditionCall → List Term
  | [] => []
  | call :: rest => call.given ++ ConditionCall.givenAll rest

def SelectCall.given : SelectCall → List Term
  | .distinct on => on.flatten
  | .columns ts | .sources ts | .groupBy ts => ts
  | .columnSelect select name | .sourceSelect select name =>
    .word name :: SelectCall.givenAll select
  | .sourceValues rows name => .word name :: rows.flatten.map Term.arg
  | .join _ target ties => target :: JoinCall.givenAll ties
  | .joinSelect _ _ select name ties =>
    .word name :: (SelectCall.givenAll select ++ JoinCall.givenAll ties)
  | .joinUnion _ union name ties =>
    .word name :: (UnionCall.givenAll union ++ JoinCall.givenAll ties)
  | .filter condition | .having condition => ConditionCall.givenAll condition
  | .orderBy column _ => [column]
  | .limit _ | .offset _ => []

def SelectCall.givenAll : List SelectCall → List Term
  | [] => []
  | call :: rest => call.given ++ SelectCall.givenAll rest

def JoinCall.given : JoinCall → List Term
  | .on condition => ConditionCall.givenAll condition
  | .usingColumns columns => columns

def JoinCall.givenAll : List JoinCall → List Term
  | [] => []
  | call :: rest => call.given ++ JoinCall.givenAll rest

def UnionCall.given : UnionCall → List Term
  | .select _ select => SelectCall.givenAll select
  | .union _ union => UnionCall.givenAll union
  | .orderBy column _ => [column]
  | .limit _ | .offset _ => []

def UnionCall.givenAll : List UnionCall → List Term
  | [] => []
  | call :: rest => call.given ++ UnionCall.givenAll rest

end

def AssignmentCall.given : AssignmentCall → List Term
  | .to values => values.map Term.arg
  | .toRaw values => values.map Term.raw
  | .select calls => SelectCall.givenAll calls

def UpdateCall.given : UpdateCall → List Term
  | .table t => [t]
  | .set columns values => columns ++ values.flatMap AssignmentCall.given
  | .sources ts => ts
  | .join _ target ties => target :: JoinCall.givenAll ties
  | .filter condition => ConditionCall.givenAll condition
  | .whereCurrentOf cursor => [cursor]
  | .returning ts => ts

def ConflictCall.given : ConflictCall → List Term
  | .filter condition => ConditionCall.givenAll condition
  | .doNothing => []
  | .doUpdate update => update.flatMap UpdateCall.given

def InsertCall.given : InsertCall → List Term
  | .into t => [t]
  | .columns ts | .returning ts => ts
  | .overriding _ | .defaultValues => []
  | .value row => row.map Term.arg
  | .values rows => rows.flatten.map Term.arg
  | .select calls => SelectCall.givenAll calls
  | .onConflict targets calls => targets ++ calls.flatMap ConflictCall.given
  | .onConflictOnConstraint name calls => name :: calls.flatMap ConflictCall.given

def DeleteCall.given : DeleteCall → List Term
  | .table t => [t]
  | .filter condition => ConditionCall.givenAll condition
  | .returning ts => ts

/-- The terms that a program is given, as they are written. -/
def Program.given : Program → List Term
  | .select calls => SelectCall.givenAll calls
  | .insert calls => calls.flatMap InsertCall.given
  | .update calls => calls.flatMap UpdateCall.given
  | .delete calls => calls.flatMap DeleteCall.given
  | .union calls => UnionCall.givenAll calls

theorem PredicateTail.addTo_balanced (tail : PredicateTail) {left : Term} {c : Condition}
    (h : c.IsBalanced) (first : left.isBalanced = true) (k : BalancedEach tail.given) :
    (tail.addTo left c).IsBalanced := by
  match tail with
  | .unfinished | .compare _ none | .member _ none => exact h
  | .compare operator (some right) =>
    exact h.addPredicate ((balancedEach_cons _ _).mpr ⟨first, k⟩)
  | .member operator (some (.values ts)) =>
    obtain ⟨word, values⟩ := (balancedEach_cons _ _).mp k
    exact h.addMembership first word values
  | .member operator (some (.raws ts)) =>
    obtain ⟨word, values⟩ := (balancedEach_cons _ _).mp k
    exact h.addMembership first word values
  | .member operator (some (.field t)) =>
    exact h.addPredicate ((balancedEach_cons _ _).mpr ⟨first, k⟩)
  | .isNull | .isNotNull => exact h.addPredicate (by simpa using ⟨first, rfl⟩)

theorem Join.IsBalanced.start (kind : JoinKind) (lateral : Bool) {target : Term}
    (h : target.isBalanced = true) : Join.IsBalanced { kind, lateral, target } :=
  ⟨h, .empty, balancedEach_nil⟩

mutual

theorem ConditionCall.apply_balanced (call : ConditionCall) {c : Condition} (h : c.IsBalanced)
    (k : BalancedEach call.given) : (call.apply c).IsBalanced := by
  cases call with
  | compare left operator value => exact h.addPredicate k
  | compareRaw left operator value => exact h.addPredicate k
  | between left low high | notBetween left low high =>
    simp only [ConditionCall.given, balancedEach_cons] at k
    exact h.addPredicate (by simpa using ⟨k.1, rfl, k.2.1, rfl, k.2.2.1⟩)
  | isIn left values | isInRaw left values | notIn left values | notInRaw left values =>
    simp only [ConditionCall.given, balancedEach_cons] at k
    exact h.addMembership k.1 rfl k.2
  | inSelect left select =>
    simp only [ConditionCall.given, balancedEach_cons] at k
    have inner := SelectCall.applyAll_balanced select .empty k.2
    exact h.addPredicate (by simpa using ⟨k.1, rfl, inner.toTerm⟩)
  | isNull left | isNotNull left =>
    simp only [ConditionCall.given, balancedEach_cons] at k
    exact h.addPredicate (by simpa using ⟨k.1, rfl⟩)
  | rawText sql => exact h.push ((balancedEach_cons _ _).mp k).1
  | stepwise left tail =>
    simp only [ConditionCall.given, balancedEach_cons] at k
    exact tail.addTo_balanced h k.1 k.2
  | stepwiseSelect left operator select =>
    simp only [ConditionCall.given, balancedEach_cons] at k
    have inner := SelectCall.applyAll_balanced select .empty k.2.2
    exact h.addPredicate (by simpa using ⟨k.1, k.2.1, inner.toTerm⟩)
  | not inner => exact h.addNot (ConditionCall.applyAll_balanced inner .empty k)
  | chained connective inner =>
    exact h.addChained connective (ConditionCall.applyAll_balanced inner .empty k)
  | mode connective => exact ⟨h.predicates, h.chain⟩

theorem ConditionCall.applyAll_balanced (calls : List ConditionCall) {c : Condition}
    (h : c.IsBalanced) (k : BalancedEach (ConditionCall.givenAll calls)) :
    (ConditionCall.applyAll calls c).IsBalanced := by
  cases calls with
  | nil => exact h
  | cons call rest =>
    obtain ⟨first, later⟩ := (balancedEach_append _ _).mp k
    exact ConditionCall.applyAll_balanced rest (ConditionCall.apply_balanced call h first) later

theorem SelectCall.apply_balanced (call : SelectCall) {s : Select} (h : s.IsBalanced)
    (k : BalancedEach call.given) : (call.apply s).IsBalanced := by
  cases call with
  | distinct on => exact h.addDistinct k
  | columns ts => exact h.addColumns k
  | columnSelect select name =>
    simp only [SelectCall.given, balancedEach_cons] at k
    have inner := SelectCall.applyAll_balanced select .empty k.2
    exact h.addColumns (by simpa using balanced_aliased inner.toTerm k.1)
  | sources ts => exact h.addSources k
  | sourceSelect select name =>
    simp only [SelectCall.given, balancedEach_cons] at k
    have inner := SelectCall.applyAll_balanced select .empty k.2
    exact h.addSources (by simpa using balanced_aliased inner.toTerm k.1)
  | sourceValues rows name =>
    simp only [SelectCall.given, balancedEach_cons] at k
    exact h.addSources (by simpa using balanced_aliased (balanced_valuesTable k.2) k.1)
  | join kind target ties =>
    simp only [SelectCall.given, balancedEach_cons] at k
    exact h.addJoin (JoinCall.applyAll_balanced ties (.start kind false k.1) k.2)
  | joinSelect kind lateral select name ties =>
    simp only [SelectCall.given, balancedEach_cons, balancedEach_append] at k
    have inner := SelectCall.applyAll_balanced select .empty k.2.1
    have target := balanced_aliased inner.toTerm k.1
    exact h.addJoin (JoinCall.applyAll_balanced ties (.start kind lateral target) k.2.2)
  | joinUnion kind union name ties =>
    simp only [SelectCall.given, balancedEach_cons, balancedEach_append] at k
    have inner := UnionCall.applyAll_balanced union .empty k.2.1
    have target := balanced_aliased inner.toTerm k.1
    exact h.addJoin (JoinCall.applyAll_balanced ties (.start kind false target) k.2.2)
  | filter condition =>
    exact { h with filter := ConditionCall.applyAll_balanced condition h.filter k }
  | groupBy ts => exact { h with groupBy := (balancedEach_append _ _).mpr ⟨h.groupBy, k⟩ }
  | having condition =>
    exact { h with having := ConditionCall.applyAll_balanced condition h.having k }
  | orderBy column words =>
    exact { h with paging := h.paging.addOrder ((balancedEach_cons _ _).mp k).1 words }
  | limit n => exact { h with paging := h.paging }
  | offset n => exact { h with paging := h.paging }

theorem SelectCall.applyAll_balanced (calls : List SelectCall) {s : Select} (h : s.IsBalanced)
    (k : BalancedEach (SelectCall.givenAll calls)) : (SelectCall.applyAll calls s).IsBalanced := by
  cases calls with
  | nil => exact h
  | cons call rest =>
    obtain ⟨first, later⟩ := (balancedEach_append _ _).mp k
    exact SelectCall.applyAll_balanced rest (SelectCall.apply_balanced call h first) later

theorem JoinCall.apply_balanced (call : JoinCall) {j : Join} (h : j.IsBalanced)
    (k : BalancedEach call.given) : (call.apply j).IsBalanced := by
  cases call with
  | on condition => exact { h with on := ConditionCall.applyAll_balanced condition h.on k }
  | usingColumns ts =>
    exact { h with usingColumns := (balancedEach_append _ _).mpr ⟨h.usingColumns, k⟩ }

theorem JoinCall.applyAll_balanced (calls : List JoinCall) {j : Join} (h : j.IsBalanced)
    (k : BalancedEach (JoinCall.givenAll calls)) : (JoinCall.applyAll calls j).IsBalanced := by
  cases calls with
  | nil => exact h
  | cons call rest =>
    obtain ⟨first, later⟩ := (balancedEach_append _ _).mp k
    exact JoinCall.applyAll_balanced rest (JoinCall.apply_balanced call h first) later

theorem UnionCall.apply_balanced (call : UnionCall) {u : Union} (h : u.IsBalanced)
    (k : BalancedEach call.given) : (call.apply u).IsBalanced := by
  cases call with
  | select keepAll select =>
    exact h.addPart keepAll (SelectCall.applyAll_balanced select .empty k).toTerm
  | union keepAll union =>
    exact h.addPart keepAll (UnionCall.applyAll_balanced union .empty k).toTerm
  | orderBy column words =>
    exact { h with paging := h.paging.addOrder ((balancedEach_cons _ _).mp k).1 words }
  | limit n => exact { h with paging := h.paging }
  | offset n => exact { h with paging := h.paging }

theorem UnionCall.applyAll_balanced (calls : List UnionCall) {u : Union} (h : u.IsBalanced)
    (k : BalancedEach (UnionCall.givenAll calls)) : (UnionCall.applyAll calls u).IsBalanced := by
  cases calls with
  | nil => exact h
  | cons call rest =>
    obtain ⟨first, later⟩ := (balancedEach_append _ _).mp k
    exact UnionCall.applyAll_balanced rest (UnionCall.apply_balanced call h first) later

end

theorem foldl_balanced {S C : Type} {P : S → Prop} {apply : S → C → S} {given : C → List Term}
    (step : ∀ call s, P s → BalancedEach (given call) → P (apply s call)) (calls : List C) {s : S}
    (h : P s) (k : BalancedEach (calls.flatMap given)) : P (calls.foldl apply s) := by
  induction calls generalizing s with
  | nil => exact h
  | cons call rest ih =>
    rw [List.flatMap_cons, balancedEach_append] at k
    exact ih (step call s h k.1) k.2

theorem Assignment.build_balanced {columns : List Term} {calls : List AssignmentCall}
    (h : BalancedEach columns) (k : BalancedEach (calls.flatMap AssignmentCall.given)) :
    (Assignment.build columns calls).IsBalanced := by
  refine foldl_balanced ?_ calls ⟨h, balancedEach_nil⟩ k
  intro call a h k
  match call with
  | .to values => exact h.addValues k
  | .toRaw values => exact h.addValues k
  | .select calls =>
    have inner := SelectCall.applyAll_balanced calls .empty k
    exact h.addValues (by simpa using inner.toTerm)

theorem Update.build_balanced {calls : List UpdateCall}
    (k : BalancedEach (calls.flatMap UpdateCall.given)) : (Update.build calls).IsBalanced := by
  refine foldl_balanced ?_ calls .empty k
  intro call u h k
  cases call with
  | table t => exact { h with table := k }
  | set columns values =>
    obtain ⟨first, later⟩ := (balancedEach_append _ _).mp k
    have assigned := List.forall_mem_singleton.mpr (Assignment.build_balanced first later)
    exact { h with assignments := List.forall_mem_append.mpr ⟨h.assignments, assigned⟩ }
  | sources ts => exact { h with sources := (balancedEach_append _ _).mpr ⟨h.sources, k⟩ }
  | join kind target ties =>
    obtain ⟨first, later⟩ := (balancedEach_cons _ _).mp k
    have joined := List.forall_mem_singleton.mpr
      (JoinCall.applyAll_balanced ties (.start kind false first) later)
    exact { h with joins := List.forall_mem_append.mpr ⟨h.joins, joined⟩ }
  | filter condition =>
    exact { h with filter := ConditionCall.applyAll_balanced condition h.filter k }
  | whereCurrentOf cursor => exact { h with cursor := k }
  | returning ts => exact { h with returning := (balancedEach_append _ _).mpr ⟨h.returning, k⟩ }

theorem Conflict.build_balanced {target : ConflictTarget} {calls : List ConflictCall}
    (h : BalancedEach target.terms) (k : BalancedEach (calls.flatMap ConflictCall.given)) :
    (Conflict.build target calls).IsBalanced := by
  refine foldl_balanced ?_ calls ⟨h, .empty, by rintro _ ⟨⟩⟩ k
  intro call c h k
  cases call with
  | filter condition =>
    exact { h with filter := ConditionCall.applyAll_balanced condition h.filter k }
  | doNothing => exact { h with action := by rintro _ ⟨⟩ }
  | doUpdate update => exact { h with action := by rintro _ ⟨⟩; exact Update.build_balanced k }

theorem Insert.build_balanced {calls : List InsertCall}
    (k : BalancedEach (calls.flatMap InsertCall.given)) : (Insert.build calls).IsBalanced := by
  refine foldl_balanced ?_ calls .empty k
  intro call i h k
  cases call with
  | into t => exact { h with table := k }
  | columns ts => exact { h with columns := (balancedEach_append _ _).mpr ⟨h.columns, k⟩ }
  | overriding o => exact { h with columns := h.columns }
  | defaultValues => exact { h with columns := h.columns }
  | value row => exact h.addRows (by simpa [InsertCall.given] using k)
  | values rows => exact h.addRows k
  | select calls =>
    have rows : BalancedEach [(SelectCall.applyAll calls {}).toTerm] := by
      simpa using (SelectCall.applyAll_balanced calls .empty k).toTerm
    exact { h with select := rows }
  | onConflict targets calls =>
    obtain ⟨first, later⟩ := (balancedEach_append _ _).mp k
    have target : BalancedEach (ConflictTarget.columns targets).terms := first
    exact { h with conflict := by rintro _ ⟨⟩; exact Conflict.build_balanced target later }
  | onConflictOnConstraint name calls =>
    obtain ⟨first, later⟩ := (balancedEach_cons _ _).mp k
    have target : BalancedEach (ConflictTarget.constraint name).terms :=
      (balancedEach_cons _ _).mpr ⟨first, balancedEach_nil⟩
    exact { h with conflict := by rintro _ ⟨⟩; exact Conflict.build_balanced target later }
  | returning ts => exact { h with returning := (balancedEach_append _ _).mpr ⟨h.returning, k⟩ }

theorem Delete.build_balanced {calls : List DeleteCall}
    (k : BalancedEach (calls.flatMap DeleteCall.given)) : (Delete.build calls).IsBalanced := by
  refine foldl_balanced ?_ calls .empty k
  intro call d h k
  cases call with
  | table t => exact { h with table := k }
  | filter condition =>
    exact { h with filter := ConditionCall.applyAll_balanced condition h.filter k }
  | returning ts => exact { h with returning := (balancedEach_append _ _).mpr ⟨h.returning, k⟩ }

theorem Program.balanced_terms (p : Program) (h : BalancedEach p.given) : BalancedEach p.terms := by
  cases p with
  | select calls => exact (SelectCall.applyAll_balanced calls .empty h).terms
  | insert calls => exact (Insert.build_balanced h).terms
  | update calls => exact (Update.build_balanced h).terms
  | delete calls => exact (Delete.build_balanced h).terms
  | union calls =>
    have built := UnionCall.applyAll_balanced calls .empty h
    exact (balancedEach_append _ _).mpr ⟨built.parts, built.paging.terms⟩

theorem Program.balanced_pieces (p : Program) (h : BalancedEach p.given) :
    BalancedPieces (layOut p.terms) :=
  balanced_law.layOut ((Term.areBalanced_iff _).mpr (p.balanced_terms h))

end BoundSql
