import BoundSql.Proofs.ConditionFormula

/-! # What calls contribute

A statement is what its calls contribute, part by part: the terms and conditions of
a part are those of the calls that speak of it, in the order of the calls, and of
numbers the last one counts. -/
set_option autoImplicit false
namespace BoundSql

def ConditionCall.entry : ConditionCall → List Term
  | .not inner =>
    if (Condition.build inner).isEmpty then []
    else [.paren "" " " [.word "not", .nested ((Condition.build inner).terms true)]]
  | call => (call.predicate?.map Predicate.term).toList

def ConditionCall.link : ConditionCall → List (Connective × List Term)
  | .chained connective inner =>
    if (Condition.build inner).isEmpty then []
    else [(connective, (Condition.build inner).terms true)]
  | _ => []

theorem ConditionCall.apply_eq (call : ConditionCall) (c : Condition) :
    call.apply c =
      ⟨c.predicates ++ call.entry, call.chooseMode c.mode, c.chain ++ call.link⟩ := by
  obtain ⟨predicates, mode, chain⟩ := c
  cases call with
  | not inner =>
    rw [apply, Condition.addNot]
    by_cases empty : (ConditionCall.applyAll inner {}).isEmpty = true
    · simp [empty, entry, Condition.build, link, chooseMode]
    · simp [empty, entry, Condition.build, link, chooseMode]
  | chained connective inner =>
    rw [apply, Condition.addChained]
    by_cases empty : (ConditionCall.applyAll inner {}).isEmpty = true
    · simp [empty, entry, predicate?, Condition.build, link, chooseMode]
    · simp [empty, entry, predicate?, Condition.build, link, chooseMode]
  | mode connective => simp [apply, entry, predicate?, link, chooseMode]
  | _ =>
    rw [ConditionCall.apply_plain _ _ rfl]
    simp [Condition.add, entry, link, chooseMode]

theorem ConditionCall.applyAll_eq (calls : List ConditionCall) (c : Condition) :
    ConditionCall.applyAll calls c =
      ⟨c.predicates ++ calls.flatMap ConditionCall.entry,
        calls.foldl ConditionCall.chooseMode c.mode,
        c.chain ++ calls.flatMap ConditionCall.link⟩ := by
  induction calls generalizing c with
  | nil => simp [applyAll]
  | cons call rest ih => simp [applyAll, ih, call.apply_eq]

theorem Condition.build_eq (calls : List ConditionCall) :
    Condition.build calls =
      ⟨calls.flatMap ConditionCall.entry, lastMode calls, calls.flatMap ConditionCall.link⟩ :=
  ConditionCall.applyAll_eq calls {}

theorem Condition.isEmpty_build_iff (calls : List ConditionCall) :
    (Condition.build calls).isEmpty = true ↔
      ∀ call ∈ calls, call.entry = [] ∧ call.link = [] := by
  rw [build_eq, isEmpty, Bool.and_eq_true, List.isEmpty_iff, List.isEmpty_iff,
    List.flatMap_eq_nil_iff, List.flatMap_eq_nil_iff]
  constructor
  · intro h call member
    exact ⟨h.1 call member, h.2 call member⟩
  · intro h
    exact ⟨fun call member => (h call member).1, fun call member => (h call member).2⟩

def JoinCall.conditions : JoinCall → List ConditionCall
  | .on condition => condition
  | .usingColumns _ => []

def JoinCall.tied : JoinCall → List Term
  | .on _ => []
  | .usingColumns columns => columns

def Join.build (kind : JoinKind) (lateral : Bool) (target : Term) (ties : List JoinCall) : Join :=
  JoinCall.applyAll ties { kind, lateral, target }

theorem JoinCall.applyAll_eq (ties : List JoinCall) (j : Join) :
    JoinCall.applyAll ties j =
      { j with
        on := ConditionCall.applyAll (ties.flatMap JoinCall.conditions) j.on
        usingColumns := j.usingColumns ++ ties.flatMap JoinCall.tied } := by
  induction ties generalizing j with
  | nil => simp [applyAll, ConditionCall.applyAll]
  | cons tie rest ih =>
    cases tie with
    | on condition =>
      simp [applyAll, ih, apply, conditions, tied, ConditionCall.applyAll_append]
    | usingColumns columns => simp [applyAll, ih, apply, conditions, tied]

def SelectCall.distinctItems : SelectCall → List (List Term)
  | .distinct on => [on.flatten]
  | _ => []

def SelectCall.columnItems : SelectCall → List Term
  | .columns ts => ts
  | .columnSelect select name => [aliased (Select.build select).toTerm name]
  | _ => []

def SelectCall.sourceItems : SelectCall → List Term
  | .sources ts => ts
  | .sourceSelect select name => [aliased (Select.build select).toTerm name]
  | .sourceValues rows name => [aliased (valuesTable rows) name]
  | _ => []

def SelectCall.joined : SelectCall → List Join
  | .join kind target ties => [Join.build kind false target ties]
  | .joinSelect kind lateral select name ties =>
    [Join.build kind lateral (aliased (Select.build select).toTerm name) ties]
  | .joinUnion kind union name ties =>
    [Join.build kind false (aliased (Union.build union).toTerm name) ties]
  | _ => []

def SelectCall.filters : SelectCall → List ConditionCall
  | .filter condition => condition
  | _ => []

def SelectCall.havings : SelectCall → List ConditionCall
  | .having condition => condition
  | _ => []

def SelectCall.groupItems : SelectCall → List Term
  | .groupBy ts => ts
  | _ => []

def SelectCall.orderItems : SelectCall → List OrderItem
  | .orderBy column words => [OrderItem.of column words]
  | _ => []

def SelectCall.limits : SelectCall → List Int64
  | .limit n => [n]
  | _ => []

def SelectCall.offsets : SelectCall → List Int64
  | .offset n => [n]
  | _ => []

/-- Every call for distinct rows counts, with the columns of all. -/
def distinctOf (start : Option (List Term)) (asked : List (List Term)) : Option (List Term) :=
  asked.foldl (fun s on => some (s.getD [] ++ on)) start

def Paging.extended (p : Paging) (order : List OrderItem) (limit offset : List Int64) : Paging :=
  ⟨p.order ++ order, limit.getLast?.or p.limit, offset.getLast?.or p.offset⟩

theorem Paging.extended_nil (p : Paging) : p.extended [] [] [] = p := by simp [extended]

def Select.extended (s : Select) (calls : List SelectCall) : Select where
  distinct := distinctOf s.distinct (calls.flatMap SelectCall.distinctItems)
  columns := s.columns ++ calls.flatMap SelectCall.columnItems
  sources := s.sources ++ calls.flatMap SelectCall.sourceItems
  joins := s.joins ++ calls.flatMap SelectCall.joined
  filter := ConditionCall.applyAll (calls.flatMap SelectCall.filters) s.filter
  groupBy := s.groupBy ++ calls.flatMap SelectCall.groupItems
  having := ConditionCall.applyAll (calls.flatMap SelectCall.havings) s.having
  paging := s.paging.extended (calls.flatMap SelectCall.orderItems)
    (calls.flatMap SelectCall.limits) (calls.flatMap SelectCall.offsets)

theorem Select.extended_append (s : Select) (first second : List SelectCall) :
    s.extended (first ++ second) = (s.extended first).extended second := by
  simp [extended, distinctOf, Paging.extended, ConditionCall.applyAll_append, List.getLast?_append,
    Option.or_assoc]

theorem SelectCall.apply_eq (call : SelectCall) (s : Select) :
    call.apply s = s.extended [call] := by
  cases call <;>
    simp [apply, Select.extended, distinctOf, Paging.extended, distinctItems, columnItems,
      sourceItems, joined, filters, havings, groupItems, orderItems, limits, offsets,
      ConditionCall.applyAll, Select.addDistinct, Select.addColumns, Select.addSources,
      Select.addJoin, Select.addGroupBy, Paging.addOrder, Select.build, Union.build, Join.build]

theorem SelectCall.applyAll_eq (calls : List SelectCall) (s : Select) :
    SelectCall.applyAll calls s = s.extended calls := by
  induction calls generalizing s with
  | nil => simp [applyAll, Select.extended, ConditionCall.applyAll, distinctOf, Paging.extended]
  | cons call rest ih =>
    rw [applyAll, ih, call.apply_eq, ← Select.extended_append]
    rfl

theorem Select.build_eq (calls : List SelectCall) :
    Select.build calls = Select.extended {} calls := SelectCall.applyAll_eq calls {}

section Parts
variable (calls : List SelectCall)

theorem Select.sources_build :
    (Select.build calls).sources = calls.flatMap SelectCall.sourceItems := by
  rw [build_eq]
  rfl

theorem Select.joins_build : (Select.build calls).joins = calls.flatMap SelectCall.joined := by
  rw [build_eq]
  rfl

theorem Select.filter_build :
    (Select.build calls).filter = Condition.build (calls.flatMap SelectCall.filters) := by
  rw [build_eq]
  rfl

theorem Select.having_build :
    (Select.build calls).having = Condition.build (calls.flatMap SelectCall.havings) := by
  rw [build_eq]
  rfl

end Parts

def UnionCall.united : UnionCall → List (Bool × Term)
  | .select keepAll calls => [(keepAll, (Select.build calls).toTerm)]
  | .union keepAll calls => [(keepAll, (Union.build calls).toTerm)]
  | _ => []

def UnionCall.orderItems : UnionCall → List OrderItem
  | .orderBy column words => [OrderItem.of column words]
  | _ => []

def UnionCall.limits : UnionCall → List Int64
  | .limit n => [n]
  | _ => []

def UnionCall.offsets : UnionCall → List Int64
  | .offset n => [n]
  | _ => []

def behindPart (part : Bool × Term) : List Term :=
  [.word (unionKeyword part.1), part.2.parenthesized]

def unionParts : List (Bool × Term) → List Term
  | [] => []
  | part :: rest => part.2.parenthesized :: rest.flatMap behindPart

theorem unionParts_snoc (parts : List (Bool × Term)) (part : Bool × Term) :
    unionParts (parts ++ [part]) =
      unionParts parts ++
        (if (unionParts parts).isEmpty then [] else [.word (unionKeyword part.1)])
        ++ [part.2.parenthesized] := by
  cases parts with
  | nil => rfl
  | cons first rest => simp [unionParts, behindPart]

theorem UnionCall.apply_eq (call : UnionCall) (u : Union) (parts : List (Bool × Term))
    (made : u.parts = unionParts parts) :
    call.apply u =
      ⟨unionParts (parts ++ call.united),
        u.paging.extended call.orderItems call.limits call.offsets⟩ := by
  cases call with
  | select keepAll calls =>
    rw [united, unionParts_snoc, apply, Union.addPart, made]
    exact congrArg (Union.mk _) u.paging.extended_nil.symm
  | union keepAll calls =>
    rw [united, unionParts_snoc, apply, Union.addPart, made]
    exact congrArg (Union.mk _) u.paging.extended_nil.symm
  | orderBy column words =>
    simp [apply, united, ← made, Paging.extended, Paging.addOrder, orderItems, limits, offsets]
  | limit n => simp [apply, united, ← made, Paging.extended, orderItems, limits, offsets]
  | offset n => simp [apply, united, ← made, Paging.extended, orderItems, limits, offsets]

theorem UnionCall.applyAll_eq (calls : List UnionCall) (u : Union) (parts : List (Bool × Term))
    (made : u.parts = unionParts parts) :
    UnionCall.applyAll calls u =
      ⟨unionParts (parts ++ calls.flatMap UnionCall.united),
        u.paging.extended (calls.flatMap UnionCall.orderItems) (calls.flatMap UnionCall.limits)
          (calls.flatMap UnionCall.offsets)⟩ := by
  induction calls generalizing u parts with
  | nil => simp [applyAll, Paging.extended, ← made]
  | cons call rest ih =>
    rw [applyAll, call.apply_eq u parts made, ih _ _ rfl]
    simp [Paging.extended, List.getLast?_append, Option.or_assoc]

theorem Union.build_eq (calls : List UnionCall) :
    Union.build calls =
      ⟨unionParts (calls.flatMap UnionCall.united),
        Paging.extended {} (calls.flatMap UnionCall.orderItems) (calls.flatMap UnionCall.limits)
          (calls.flatMap UnionCall.offsets)⟩ :=
  UnionCall.applyAll_eq calls {} [] rfl

end BoundSql
