import BoundSql.Proofs.CompletedPredicates
import BoundSql.Proofs.Rearrangement

/-! # Conditions spelt step by step

A predicate can be given by one call, or by its left side, its operator and its right
side, one after the other.  Both ways lead to the same condition, in every condition of
every statement inside, and so do left sides and operators that are left without a right
side. -/
set_option autoImplicit false
namespace BoundSql

/-- The operand makes the left side: a field is the term itself, a value is marked as an
argument. -/
inductive Operand.Makes : Operand → Term → Prop
  | field (t : Term) : Operand.Makes (.field t) t
  | value (t : Term) : Operand.Makes (.value t) t.arg

/-- The second call spells step by step what the first one says at once. -/
inductive ConditionCall.SpeltAs : ConditionCall → ConditionCall → Prop
  | compare {operand : Operand} {left : Term} (h : operand.Makes left) (operator : Operator)
    (value : Term) : SpeltAs (.compare left operator value)
      (.stepwise operand (.compare operator (some (.value value))))
  | compareRaw {operand : Operand} {left : Term} (h : operand.Makes left) (operator : Operator)
    (value : Term) : SpeltAs (.compareRaw left operator value)
      (.stepwise operand (.compare operator (some (.raw value))))
  | compareField {operand : Operand} {left : Term} (h : operand.Makes left)
    (operator : Operator) (field : Term) : SpeltAs (.compareRaw left operator field)
      (.stepwise operand (.compare operator (some (.field field))))
  | isIn {operand : Operand} {left : Term} (h : operand.Makes left) (values : List Term) :
    SpeltAs (.isIn left values) (.stepwise operand (.member .isIn (some (.values values))))
  | isInRaw {operand : Operand} {left : Term} (h : operand.Makes left) (values : List Term) :
    SpeltAs (.isInRaw left values) (.stepwise operand (.member .isIn (some (.raws values))))
  | notIn {operand : Operand} {left : Term} (h : operand.Makes left) (values : List Term) :
    SpeltAs (.notIn left values) (.stepwise operand (.member .notIn (some (.values values))))
  | notInRaw {operand : Operand} {left : Term} (h : operand.Makes left) (values : List Term) :
    SpeltAs (.notInRaw left values) (.stepwise operand (.member .notIn (some (.raws values))))
  | inSelect {operand : Operand} {left : Term} (h : operand.Makes left)
    (select : List SelectCall) :
    SpeltAs (.inSelect left select) (.stepwiseSelect operand .isIn select)
  | isNull {operand : Operand} {left : Term} (h : operand.Makes left) :
    SpeltAs (.isNull left) (.stepwise operand .isNull)
  | isNotNull {operand : Operand} {left : Term} (h : operand.Makes left) :
    SpeltAs (.isNotNull left) (.stepwise operand .isNotNull)

theorem Operand.Makes.term_eq {operand : Operand} {left : Term} (h : operand.Makes left) :
    operand.term = left := by
  cases h <;> rfl

theorem ConditionCall.SpeltAs.apply_eq {direct stepwise : ConditionCall}
    (h : direct.SpeltAs stepwise) (c : Condition) : stepwise.apply c = direct.apply c := by
  cases h with
  | compare left | compareRaw left | compareField left | isIn left | isInRaw left | notIn left
  | notInRaw left | isNull left | isNotNull left =>
    rw [← left.term_eq]
    rfl
  | inSelect left select =>
    rw [ConditionCall.apply, ConditionCall.apply, left.term_eq]
    rfl

theorem PredicateTail.addTo_unfinished {tail : PredicateTail} (missing : tail.isFinished = false)
    (left : Term) (c : Condition) : tail.addTo left c = c := by
  have nothing : tail.predicate? left = none := by
    rw [← Option.isNone_iff_eq_none, ← Option.isSome_eq_false_iff, tail.predicate?_isSome,
      missing, Bool.false_and]
  rw [tail.addTo_eq, nothing, c.add_none]

/-- The second program is the first one, in which, at any depth, predicates are spelt step
by step and predicates without a right side are put in. -/
inductive Respelt : (b : Builder) → List b.Call → List b.Call → Prop
  | nil {b : Builder} : Respelt b [] []
  | keep {b : Builder} (call : b.Call) {xs ys : List b.Call} (rest : Respelt b xs ys) :
    Respelt b (call :: xs) (call :: ys)
  | spell {direct stepwise : ConditionCall} (spelt : direct.SpeltAs stepwise)
    {xs ys : List ConditionCall} (rest : Respelt .condition xs ys) :
    Respelt .condition (direct :: xs) (stepwise :: ys)
  | insert (operand : Operand) {tail : PredicateTail} (missing : tail.isFinished = false)
    {xs ys : List ConditionCall} (rest : Respelt .condition xs ys) :
    Respelt .condition xs (.stepwise operand tail :: ys)
  | inside {outer inner : Builder} {make : List inner.Call → outer.Call}
    (h : Holds outer inner make) {us vs : List inner.Call} (held : Respelt inner us vs)
    {xs ys : List outer.Call} (rest : Respelt outer xs ys) :
    Respelt outer (make us :: xs) (make vs :: ys)
  | trans {b : Builder} {xs ys zs : List b.Call} (h : Respelt b xs ys) (k : Respelt b ys zs) :
    Respelt b xs zs

section Programs
variable {b : Builder}

theorem Respelt.refl (xs : List b.Call) : Respelt b xs xs := by
  induction xs with
  | nil => exact .nil
  | cons call rest ih => exact .keep call ih

theorem Respelt.append {xs ys us vs : List b.Call} (h : Respelt b xs ys) (k : Respelt b us vs) :
    Respelt b (xs ++ us) (ys ++ vs) := by
  induction h with
  | nil => exact k
  | keep call _ ih => exact .keep call (ih k)
  | spell spelt _ ih => exact .spell spelt (ih k)
  | insert operand missing _ ih => exact .insert operand missing (ih k)
  | inside h held _ _ ih => exact .inside h held (ih k)
  | trans _ _ ih ik => exact (ih (.refl us)).trans (ik k)

/-- Both programs build the same, whatever is there before. -/
theorem Respelt.run_eq {xs ys : List b.Call} (h : Respelt b xs ys) (s : b.State) :
    b.run ys s = b.run xs s := by
  induction h with
  | nil => rfl
  | keep call _ ih => exact ih _
  | @spell direct stepwise spelt xs ys _ ih =>
    rw [Builder.run_cons, Builder.run_cons, ih]
    exact congrArg (Builder.condition.run xs) (spelt.apply_eq s)
  | @insert operand tail missing xs ys _ ih =>
    rw [Builder.run_cons, ih]
    exact congrArg (Builder.condition.run xs) (tail.addTo_unfinished missing operand.term s)
  | @inside outer inner make h us vs _ xs ys _ inner_ih ih =>
    rw [Builder.run_cons, Builder.run_cons, ih, h.apply_congr inner_ih]
  | trans _ _ ih ik => exact (ik s).trans (ih s)

/-- The program has a counterpart of the call, with those of the other calls around it. -/
def HasCounterpart (done : List b.Call) (call : b.Call) (later ys : List b.Call) : Prop :=
  ∃ done' call' later', ys = done' ++ call' :: later' ∧ Respelt b done done' ∧
    Respelt b [call] [call'] ∧ Respelt b later later'

theorem HasCounterpart.behind {done done' : List b.Call} (h : Respelt b done done')
    {call : b.Call} {front later ys : List b.Call} (k : HasCounterpart front call later ys) :
    HasCounterpart (done ++ front) call later (done' ++ ys) := by
  obtain ⟨front', call', later', rfl, before, here, after⟩ := k
  exact ⟨done' ++ front', call', later', (List.append_assoc _ _ _).symm, h.append before, here,
    after⟩

theorem HasCounterpart.cons {first first' : b.Call} (head : Respelt b [first] [first'])
    {xs ys : List b.Call} (rest : Respelt b xs ys)
    (ih : ∀ {done later : List b.Call} {call : b.Call}, xs = done ++ call :: later →
      HasCounterpart done call later ys)
    {done later : List b.Call} {call : b.Call} (split : first :: xs = done ++ call :: later) :
    HasCounterpart done call later (first' :: ys) := by
  rcases List.cons_eq_append_iff.mp split with ⟨rfl, here⟩ | ⟨front, rfl, inside⟩
  · obtain ⟨rfl, rfl⟩ := List.cons.inj here
    exact ⟨[], first', ys, rfl, .nil, head, rest⟩
  · exact (ih inside).behind head

/-- Each call of a program has its counterpart in the program that is spelt otherwise. -/
theorem Respelt.hasCounterpart {xs ys : List b.Call} (h : Respelt b xs ys)
    {done later : List b.Call} {call : b.Call} (split : xs = done ++ call :: later) :
    HasCounterpart done call later ys := by
  induction h with
  | nil => simp at split
  | keep first rest ih => exact .cons (.keep first .nil) rest ih split
  | spell spelt rest ih => exact .cons (.spell spelt .nil) rest ih split
  | insert operand missing _ ih => exact (ih split).behind (.insert operand missing .nil)
  | inside h held rest _ ih => exact .cons (.inside h held .nil) rest ih split
  | trans _ _ ih ik =>
    -- the counterpart of the counterpart, which stands in the program between the two
    obtain ⟨done', call', later', between, before, here, after⟩ := ih split
    obtain ⟨front, counterpart, back, whole, front', here', back'⟩ := ik between
    exact ⟨front, counterpart, back, whole, before.trans front', here.trans here',
      after.trans back'⟩

end Programs

theorem Respelt.applyAll_eq {calls others : List ConditionCall}
    (h : Respelt .condition calls others) (c : Condition) :
    ConditionCall.applyAll others c = ConditionCall.applyAll calls c := by
  have run := h.run_eq c
  rwa [← Builder.applyAll_eq_run, ← Builder.applyAll_eq_run] at run

/-- A condition that is spelt step by step is empty behind each of the calls exactly where
it is behind their counterparts, and it gives the same query on its own and inside another
condition, whatever was in it before. -/
theorem respelt_condition_same {calls others : List ConditionCall}
    (h : Respelt .condition calls others) (c : Condition) :
    (∀ done call later, calls = done ++ call :: later →
      ∃ done' call' later', others = done' ++ call' :: later' ∧
        Respelt .condition done done' ∧ Respelt .condition [call] [call'] ∧
        Respelt .condition later later' ∧
        (ConditionCall.applyAll (done' ++ [call']) c).isEmpty =
          (ConditionCall.applyAll (done ++ [call]) c).isEmpty) ∧
    ∀ nested, compile ((ConditionCall.applyAll others c).terms nested) =
      compile ((ConditionCall.applyAll calls c).terms nested) := by
  refine ⟨fun done call later split => ?_, fun nested => ?_⟩
  · obtain ⟨done', call', later', whole, before, here, after⟩ := h.hasCounterpart split
    refine ⟨done', call', later', whole, before, here, after, ?_⟩
    rw [(before.append here).applyAll_eq]
  · rw [h.applyAll_eq]

def visitFilter : List ConditionCall :=
  [.isIn (.word "kind") [], .mode .or, .not [.compare (Term.literal (.int4 7)).arg .lt .default],
    .chained .and [.inSelect (.word "id")
      [.columns [.word "owner"], .sources [.word "visits"],
        .filter [.compareRaw (.word "place") .eq (.quantified .any (.word "places")),
          .notIn (.word "day") [.literal .null, .literal (.int4 1)]]]]]

def visitFilterInSteps : List ConditionCall :=
  [.stepwise (.field (.word "seen")) .unfinished,
    .stepwise (.field (.word "kind")) (.member .isIn (some (.values []))), .mode .or,
    .not [.stepwise (.value (.literal (.int4 7))) (.compare .lt (some (.value .default)))],
    .chained .and [.stepwiseSelect (.field (.word "id")) .isIn
      [.columns [.word "owner"], .sources [.word "visits"],
        .filter [.stepwise (.field (.word "place"))
            (.compare .eq (some (.field (.quantified .any (.word "places"))))),
          .stepwise (.value (.word "day")) (.member .isIn none),
          .stepwise (.field (.word "day"))
            (.member .notIn (some (.values [.literal .null, .literal (.int4 1)])))]]]]

theorem respelt_visitFilter : Respelt .condition visitFilter visitFilterInSteps := by
  have visits : Respelt .select
      [.columns [.word "owner"], .sources [.word "visits"],
        .filter [.compareRaw (.word "place") .eq (.quantified .any (.word "places")),
          .notIn (.word "day") [.literal .null, .literal (.int4 1)]]]
      [.columns [.word "owner"], .sources [.word "visits"],
        .filter [.stepwise (.field (.word "place"))
            (.compare .eq (some (.field (.quantified .any (.word "places"))))),
          .stepwise (.value (.word "day")) (.member .isIn none),
          .stepwise (.field (.word "day"))
            (.member .notIn (some (.values [.literal .null, .literal (.int4 1)])))]] := by
    refine .keep _ (.keep _ (.inside .filter ?_ .nil))
    exact .spell (.compareField (.field _) _ _)
      (.insert _ rfl (.spell (.notIn (.field _) _) .nil))
  refine .insert _ rfl (.spell (.isIn (.field _) _) (.keep _ ?_))
  refine .inside .not (.spell (.compare (.value _) _ _) .nil) ?_
  refine .inside (.chained .and) ?_ .nil
  exact .trans (.spell (.inSelect (.field _) _) .nil)
    (.inside (.stepwiseSelect (.field (.word "id")) .isIn) visits .nil)

theorem respelt_condition_same_visitFilter :
    Respelt .condition visitFilter visitFilterInSteps ∧
      compile ((ConditionCall.applyAll visitFilterInSteps {}).terms false) =
        compile ((ConditionCall.applyAll visitFilter {}).terms false) ∧
      (compile ((ConditionCall.applyAll visitFilter {}).terms false)).sql =
        "(false or (not ($1 < default))) and (id in (select owner from visits where " ++
          "(place = any(places) and day not in (null, $2))))" :=
  ⟨respelt_visitFilter, (respelt_condition_same respelt_visitFilter {}).2 false,
    by decide +kernel⟩

end BoundSql
