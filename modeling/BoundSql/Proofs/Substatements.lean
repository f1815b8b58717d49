import BoundSql.Proofs.RelocatedChanges
import BoundSql.Proofs.ShorterTexts

/-! # Statements inside statements

A select or a union inside another statement is written as it is written alone, with
the placeholders raised by the arguments that stand in front of its place; its
arguments follow these without a gap.  A host here is a family of calls that differ
in what stands at one place, so what is around the place is the same whatever is put
there. -/
set_option autoImplicit false
namespace BoundSql

/-- What stands around an embedded statement: it may be the whole program, or it may
stand in another one with or without parentheses of its own. -/
inductive Setting
  | whole
  | bare
  | enclosed

def Setting.inParens : Setting → Setting
  | .whole => .enclosed
  | s => s

def Setting.withoutParens : Setting → Setting
  | .whole => .bare
  | s => s

/-- What holds an embedded statement, as a family over what is embedded. -/
inductive Host (H : Type)
  | condition (calls : H → List ConditionCall)
  | ties (calls : H → List JoinCall)
  | values (calls : H → List AssignmentCall)
  | conflict (target : ConflictTarget) (calls : H → List ConflictCall)
  | program (p : H → Program)

/-- The places of a statement inside another one, at any depth.  A join needs a source,
the filter of a conflict needs columns, and what is given once must be given last:
elsewhere the part is not written at all. -/
inductive Embeds {H : Type} (sub : H → Program) : Setting → Host H → Prop
  | itself : Embeds sub .whole (.program sub)
  | inSelect {s : Setting} {calls : H → List SelectCall} (before after : List ConditionCall)
    (left : Term) (h : Embeds sub s (.program fun x => .select (calls x))) :
    Embeds sub s.inParens (.condition fun x => before ++ .inSelect left (calls x) :: after)
  | stepwiseSelect {s : Setting} {calls : H → List SelectCall} (before after : List ConditionCall)
    (left : Operand) (operator : ListOperator)
    (h : Embeds sub s (.program fun x => .select (calls x))) :
    Embeds sub s.inParens
      (.condition fun x => before ++ .stepwiseSelect left operator (calls x) :: after)
  | not {s : Setting} {calls : H → List ConditionCall} (before after : List ConditionCall)
    (h : Embeds sub s (.condition calls)) :
    Embeds sub s (.condition fun x => before ++ .not (calls x) :: after)
  | chained {s : Setting} {calls : H → List ConditionCall} (before after : List ConditionCall)
    (connective : Connective) (h : Embeds sub s (.condition calls)) :
    Embeds sub s (.condition fun x => before ++ .chained connective (calls x) :: after)
  | on {s : Setting} {calls : H → List ConditionCall} (before after : List JoinCall)
    (h : Embeds sub s (.condition calls)) :
    Embeds sub s (.ties fun x => before ++ .on (calls x) :: after)
  | columnSelect {s : Setting} {calls : H → List SelectCall} (before after : List SelectCall)
    (name : String) (h : Embeds sub s (.program fun x => .select (calls x))) :
    Embeds sub s.inParens
      (.program fun x => .select (before ++ .columnSelect (calls x) name :: after))
  | sourceSelect {s : Setting} {calls : H → List SelectCall} (before after : List SelectCall)
    (name : String) (h : Embeds sub s (.program fun x => .select (calls x))) :
    Embeds sub s.inParens
      (.program fun x => .select (before ++ .sourceSelect (calls x) name :: after))
  | joinSelect {s : Setting} {calls : H → List SelectCall} (before after : List SelectCall)
    (kind : JoinKind) (lateral : Bool) (name : String) (ties : List JoinCall)
    (source : (before ++ after).flatMap SelectCall.sourceItems ≠ [])
    (h : Embeds sub s (.program fun x => .select (calls x))) :
    Embeds sub s.inParens (.program fun x =>
      .select (before ++ .joinSelect kind lateral (calls x) name ties :: after))
  | joinUnion {s : Setting} {calls : H → List UnionCall} (before after : List SelectCall)
    (kind : JoinKind) (name : String) (ties : List JoinCall)
    (source : (before ++ after).flatMap SelectCall.sourceItems ≠ [])
    (h : Embeds sub s (.program fun x => .union (calls x))) :
    Embeds sub s.inParens (.program fun x =>
      .select (before ++ .joinUnion kind (calls x) name ties :: after))
  | joinTies {s : Setting} {ties : H → List JoinCall} (before after : List SelectCall)
    (kind : JoinKind) (target : Term)
    (source : (before ++ after).flatMap SelectCall.sourceItems ≠ [])
    (h : Embeds sub s (.ties ties)) :
    Embeds sub s (.program fun x => .select (before ++ .join kind target (ties x) :: after))
  | joinSelectTies {s : Setting} {ties : H → List JoinCall} (before after : List SelectCall)
    (kind : JoinKind) (lateral : Bool) (select : List SelectCall) (name : String)
    (source : (before ++ after).flatMap SelectCall.sourceItems ≠ [])
    (h : Embeds sub s (.ties ties)) :
    Embeds sub s (.program fun x =>
      .select (before ++ .joinSelect kind lateral select name (ties x) :: after))
  | joinUnionTies {s : Setting} {ties : H → List JoinCall} (before after : List SelectCall)
    (kind : JoinKind) (union : List UnionCall) (name : String)
    (source : (before ++ after).flatMap SelectCall.sourceItems ≠ [])
    (h : Embeds sub s (.ties ties)) :
    Embeds sub s (.program fun x =>
      .select (before ++ .joinUnion kind union name (ties x) :: after))
  | filter {s : Setting} {calls : H → List ConditionCall} (before after : List SelectCall)
    (h : Embeds sub s (.condition calls)) :
    Embeds sub s (.program fun x => .select (before ++ .filter (calls x) :: after))
  | having {s : Setting} {calls : H → List ConditionCall} (before after : List SelectCall)
    (h : Embeds sub s (.condition calls)) :
    Embeds sub s (.program fun x => .select (before ++ .having (calls x) :: after))
  | unionSelect {s : Setting} {calls : H → List SelectCall} (before after : List UnionCall)
    (keepAll : Bool) (h : Embeds sub s (.program fun x => .select (calls x))) :
    Embeds sub s.inParens (.program fun x => .union (before ++ .select keepAll (calls x) :: after))
  | unionUnion {s : Setting} {calls : H → List UnionCall} (before after : List UnionCall)
    (keepAll : Bool) (h : Embeds sub s (.program fun x => .union (calls x))) :
    Embeds sub s.inParens (.program fun x => .union (before ++ .union keepAll (calls x) :: after))
  | assignSelect {s : Setting} {calls : H → List SelectCall} (before after : List AssignmentCall)
    (h : Embeds sub s (.program fun x => .select (calls x))) :
    Embeds sub s.inParens (.values fun x => before ++ .select (calls x) :: after)
  | set {s : Setting} {values : H → List AssignmentCall} (before after : List UpdateCall)
    (columns : List Term) (h : Embeds sub s (.values values)) :
    Embeds sub s (.program fun x => .update (before ++ .set columns (values x) :: after))
  | updateJoin {s : Setting} {ties : H → List JoinCall} (before after : List UpdateCall)
    (kind : JoinKind) (target : Term) (h : Embeds sub s (.ties ties)) :
    Embeds sub s (.program fun x => .update (before ++ .join kind target (ties x) :: after))
  | updateFilter {s : Setting} {calls : H → List ConditionCall} (before after : List UpdateCall)
    (h : Embeds sub s (.condition calls)) :
    Embeds sub s (.program fun x => .update (before ++ .filter (calls x) :: after))
  | conflictFilter {s : Setting} {calls : H → List ConditionCall} (columns : List Term)
    (before after : List ConflictCall) (h : Embeds sub s (.condition calls)) :
    Embeds sub s (.conflict (.columns columns) fun x => before ++ .filter (calls x) :: after)
  | doUpdate {s : Setting} {update : H → List UpdateCall} (target : ConflictTarget)
    (before after : List ConflictCall) (last : after.flatMap ConflictCall.actions = [])
    (h : Embeds sub s (.program fun x => .update (update x))) :
    Embeds sub s.withoutParens
      (.conflict target fun x => before ++ .doUpdate (update x) :: after)
  | insertSelect {s : Setting} {calls : H → List SelectCall} (before after : List InsertCall)
    (last : after.flatMap InsertCall.selects = [])
    (h : Embeds sub s (.program fun x => .select (calls x))) :
    Embeds sub s.withoutParens (.program fun x => .insert (before ++ .select (calls x) :: after))
  | onConflict {s : Setting} {calls : H → List ConflictCall} (before after : List InsertCall)
    (columns : List Term) (last : after.flatMap InsertCall.conflicts = [])
    (h : Embeds sub s (.conflict (.columns columns) calls)) :
    Embeds sub s (.program fun x => .insert (before ++ .onConflict columns (calls x) :: after))
  | onConstraint {s : Setting} {calls : H → List ConflictCall} (before after : List InsertCall)
    (name : Term) (last : after.flatMap InsertCall.conflicts = [])
    (h : Embeds sub s (.conflict (.constraint name) calls)) :
    Embeds sub s (.program fun x =>
      .insert (before ++ .onConflictOnConstraint name (calls x) :: after))
  | deleteFilter {s : Setting} {calls : H → List ConditionCall} (before after : List DeleteCall)
    (h : Embeds sub s (.condition calls)) :
    Embeds sub s (.program fun x => .delete (before ++ .filter (calls x) :: after))

/-! ## Each place by itself -/

section Places
variable {H : Type} {s : Setting} {sub inner outer : H → List Piece}

def Setting.surround : Setting → List Piece → List Piece
  | .enclosed, pieces => enclosedPieces "" pieces
  | _, pieces => pieces

/-- The pieces of a program that holds the pieces of another one, or is that program. -/
def Placed (s : Setting) (sub outer : H → List Piece) : Prop :=
  match s with
  | .whole => outer = sub
  | s => Relocates (fun x => s.surround (sub x)) outer

structure Within (s : Setting) (sub outer : H → List Piece) : Prop where
  inside : s ≠ .whole
  relocates : Relocates (fun x => s.surround (sub x)) outer

theorem Placed.inParens (h : Placed s sub inner)
    (k : Relocates (fun x => enclosedPieces "" (inner x)) outer) : Within s.inParens sub outer := by
  cases s with
  | whole =>
    cases h
    exact ⟨Setting.noConfusion, k⟩
  | bare => exact ⟨Setting.noConfusion, (Relocates.trans h (.enclosed "" inner)).trans k⟩
  | enclosed => exact ⟨Setting.noConfusion, (Relocates.trans h (.enclosed "" inner)).trans k⟩

theorem Placed.withoutParens (h : Placed s sub inner) (k : Relocates inner outer) :
    Within s.withoutParens sub outer := by
  cases s with
  | whole =>
    cases h
    exact ⟨Setting.noConfusion, k⟩
  | bare => exact ⟨Setting.noConfusion, Relocates.trans h k⟩
  | enclosed => exact ⟨Setting.noConfusion, Relocates.trans h k⟩

theorem Within.trans (h : Within s sub inner) (k : Relocates inner outer) : Within s sub outer :=
  ⟨h.inside, h.relocates.trans k⟩

theorem Within.placed (h : Within s sub outer) : Placed s sub outer := by
  cases s with
  | whole => exact absurd rfl h.inside
  | bare => exact h.relocates
  | enclosed => exact h.relocates

end Places

/-! ## All places -/

section Embedding
variable {H : Type}

/-- A condition may be continued, so it holds the pieces whatever is called around it. -/
structure ConditionHolds (s : Setting) (sub : H → List Piece) (calls : H → List ConditionCall) :
    Prop where
  visible : ∀ before after x,
    (Condition.build (before ++ calls x ++ after)).isEmpty = false
  within : ∀ before after nested, Within s sub fun x =>
    layOut ((Condition.build (before ++ calls x ++ after)).terms nested)

def Host.Holds (s : Setting) (sub : H → List Piece) : Host H → Prop
  | .condition calls => ConditionHolds s sub calls
  | .ties calls => ∀ kind lateral target,
    Within s sub fun x => (Join.build kind lateral target (calls x)).toTerm.pieces
  | .values calls => ∀ columns,
    Within s sub fun x => (Assignment.build columns (calls x)).toTerm.pieces
  | .conflict target calls => Within s sub fun x => (Conflict.build target (calls x)).toTerm.pieces
  | .program p => Placed s sub fun x => layOut (p x).terms

variable {s : Setting} {sub : H → List Piece}

theorem ConditionHolds.ofEntry {before after : List ConditionCall} {call : H → ConditionCall}
    {t : H → Term} (entry : ∀ x, (call x).entry = [t x]) (link : ∀ x, (call x).link = [])
    (mode : ∀ x m, (call x).chooseMode m = m) (h : Within s sub fun x => (t x).pieces) :
    ConditionHolds s sub fun x => before ++ call x :: after := by
  have parts (front back : List ConditionCall) :=
    Condition.relocates_entryCall (front ++ before) (after ++ back) entry link mode
  refine ⟨?_, ?_⟩
  · intro front back x
    have nonempty := (parts front back).1 x
    simpa using nonempty
  · intro front back nested
    have place := (parts front back).2 nested
    simp only [List.append_assoc, List.cons_append] at place ⊢
    exact h.trans place

theorem ConditionHolds.ofLink {before after : List ConditionCall} {call : H → ConditionCall}
    {connective : Connective} {inner : H → List Term} (entry : ∀ x, (call x).entry = [])
    (link : ∀ x, (call x).link = [(connective, inner x)])
    (mode : ∀ x m, (call x).chooseMode m = m) (h : Within s sub fun x => layOut (inner x)) :
    ConditionHolds s sub fun x => before ++ call x :: after := by
  have parts (front back : List ConditionCall) :=
    Condition.relocates_linkCall (front ++ before) (after ++ back) entry link mode
  refine ⟨?_, ?_⟩
  · intro front back x
    have nonempty := (parts front back).1 x
    simpa using nonempty
  · intro front back nested
    have place := (parts front back).2 nested
    simp only [List.append_assoc, List.cons_append] at place ⊢
    exact h.trans place

/-- The second of two terms before a list in parentheses. -/
theorem relocates_rowPredicate (left operator : Term) (t : H → Term) :
    Relocates (fun x => enclosedPieces "" (t x).pieces)
      fun x => (Term.group " " [left, operator, (t x).parenthesized]).pieces := by
  simp only [← Term.pieces_parenthesized]
  exact (Carried.middle [left, operator] [] fun x => (t x).parenthesized).join " "

theorem relocates_negation (ts : H → List Term) :
    Relocates (fun x => layOut (ts x))
      fun x => (Term.paren "" " " [.word "not", .nested (ts x)]).pieces := by
  have second := Carried.middle [.word "not"] [] fun x => Term.nested (ts x)
  exact second.paren "" " "

theorem ConditionHolds.inSelect (before after : List ConditionCall) (left : Term)
    {calls : H → List SelectCall}
    (h : Placed s sub fun x => layOut (Select.build (calls x)).terms) :
    ConditionHolds s.inParens sub fun x => before ++ .inSelect left (calls x) :: after := by
  let t := fun x => (Select.build (calls x)).toTerm
  have entry (x : H) : (ConditionCall.inSelect left (calls x)).entry =
      [.group " " [left, .word "in", (t x).parenthesized]] := rfl
  exact ConditionHolds.ofEntry entry (fun _ => rfl) (fun _ _ => rfl)
    (h.inParens (relocates_rowPredicate left (.word "in") t))

theorem ConditionHolds.stepwiseSelect (before after : List ConditionCall) (left : Operand)
    (operator : ListOperator) {calls : H → List SelectCall}
    (h : Placed s sub fun x => layOut (Select.build (calls x)).terms) :
    ConditionHolds s.inParens sub
      fun x => before ++ .stepwiseSelect left operator (calls x) :: after := by
  let t := fun x => (Select.build (calls x)).toTerm
  have entry (x : H) : (ConditionCall.stepwiseSelect left operator (calls x)).entry =
      [.group " " [left.term, .word operator.text, (t x).parenthesized]] := rfl
  exact ConditionHolds.ofEntry entry (fun _ => rfl) (fun _ _ => rfl)
    (h.inParens (relocates_rowPredicate left.term (.word operator.text) t))

theorem ConditionHolds.visible_alone {calls : H → List ConditionCall}
    (h : ConditionHolds s sub calls) (x : H) : (Condition.build (calls x)).isEmpty = false := by
  simpa using h.visible [] [] x

theorem ConditionHolds.within_alone {calls : H → List ConditionCall}
    (h : ConditionHolds s sub calls) (nested : Bool) :
    Within s sub fun x => layOut ((Condition.build (calls x)).terms nested) := by
  simpa using h.within [] [] nested

theorem ConditionHolds.not (before after : List ConditionCall) {calls : H → List ConditionCall}
    (h : ConditionHolds s sub calls) :
    ConditionHolds s sub fun x => before ++ .not (calls x) :: after := by
  let t := fun x =>
    Term.paren "" " " [.word "not", .nested ((Condition.build (calls x)).terms true)]
  have entry (x : H) : (ConditionCall.not (calls x)).entry = [t x] := by
    rw [ConditionCall.entry, h.visible_alone]
    rfl
  exact ConditionHolds.ofEntry entry (fun _ => rfl) (fun _ _ => rfl)
    ((h.within_alone true).trans (relocates_negation _))

theorem ConditionHolds.chained (before after : List ConditionCall) (connective : Connective)
    {calls : H → List ConditionCall} (h : ConditionHolds s sub calls) :
    ConditionHolds s sub fun x => before ++ .chained connective (calls x) :: after := by
  have link (x : H) : (ConditionCall.chained connective (calls x)).link =
      [(connective, (Condition.build (calls x)).terms true)] := by
    rw [ConditionCall.link, h.visible_alone]
    rfl
  exact ConditionHolds.ofLink (fun _ => rfl) link (fun _ _ => rfl) (h.within_alone true)

theorem ConditionHolds.placed {b : Builder} {calls : H → List ConditionCall}
    (h : ConditionHolds s sub calls) (place : KeywordPlace b) (before after : List b.Call) :
    Placed s sub
      fun x => layOut (place.terms (place.build (before ++ place.call (calls x) :: after))) :=
  ((h.within _ _ false).trans (place.relocates before after (h.visible _ _))).placed

theorem Placed.joinTarget (before after : List SelectCall) (kind : JoinKind) (lateral : Bool)
    (name : String) (ties : List JoinCall)
    (source : (before ++ after).flatMap SelectCall.sourceItems ≠ []) {t : H → Term}
    {call : H → SelectCall}
    (joined : ∀ x, (call x).joined = [Join.build kind lateral (aliased (t x) name) ties])
    (h : Placed s sub fun x => (t x).pieces) :
    Placed s.inParens sub
      fun x => layOut (Select.build (before ++ call x :: after)).terms := by
  have target := (relocates_aliased t name).trans (relocates_joinTarget kind lateral ties _)
  exact (h.inParens (target.trans (relocates_joined before after joined source))).placed

theorem Within.joined (before after : List SelectCall)
    (source : (before ++ after).flatMap SelectCall.sourceItems ≠ []) {j : H → Join}
    (h : Within s sub fun x => (j x).toTerm.pieces) {call : H → SelectCall}
    (joined : ∀ x, (call x).joined = [j x]) :
    Placed s sub fun x => layOut (Select.build (before ++ call x :: after)).terms :=
  (h.trans (relocates_joined before after joined source)).placed

theorem Placed.united (before after : List UnionCall) {keepAll : Bool} {t : H → Term}
    (h : Placed s sub fun x => (t x).pieces) {call : H → UnionCall}
    (united : ∀ x, (call x).united = [(keepAll, t x)]) :
    Placed s.inParens sub fun x => layOut (Union.build (before ++ call x :: after)).terms :=
  (h.inParens (relocates_united before after united)).placed

theorem Within.conflict (before after : List InsertCall)
    (last : after.flatMap InsertCall.conflicts = []) {c : H → Conflict}
    (h : Within s sub fun x => (c x).toTerm.pieces) {call : H → InsertCall}
    (conflict : ∀ x, (call x).conflicts = [c x]) :
    Placed s sub fun x => layOut (Insert.build (before ++ call x :: after)).terms :=
  (h.trans (relocates_conflict before after last conflict)).placed

/-- What is embedded at some place is there in the text of the host. -/
theorem Embeds.holds {embedded : H → Program} {host : Host H} (h : Embeds embedded s host) :
    host.Holds s fun x => layOut (embedded x).terms := by
  induction h with
  | itself => exact rfl
  | inSelect before after left _ ih => exact ConditionHolds.inSelect before after left ih
  | stepwiseSelect before after left operator _ ih =>
    exact ConditionHolds.stepwiseSelect before after left operator ih
  | not before after _ ih => exact ConditionHolds.not before after ih
  | chained before after connective _ ih =>
    exact ConditionHolds.chained before after connective ih
  | on before after _ ih =>
    intro kind lateral target
    exact (ih.within _ _ false).trans
      (relocates_joinOn kind lateral target before after (ih.visible _ _))
  | columnSelect before after name _ ih =>
    exact (ih.inParens (relocates_columnSelect before after name _)).placed
  | sourceSelect before after name _ ih =>
    exact (ih.inParens (relocates_sourceSelect before after name _)).placed
  | joinSelect before after kind lateral name ties source _ ih =>
    exact Placed.joinTarget before after kind lateral name ties source (fun _ => rfl) ih
  | joinUnion before after kind name ties source _ ih =>
    exact Placed.joinTarget before after kind false name ties source (fun _ => rfl) ih
  | joinTies before after kind target source _ ih =>
    exact (ih kind false target).joined before after source fun _ => rfl
  | joinSelectTies before after kind lateral select name source _ ih =>
    exact (ih kind lateral (aliased (Select.build select).toTerm name)).joined before after source
      fun _ => rfl
  | joinUnionTies before after kind union name source _ ih =>
    exact (ih kind false (aliased (Union.build union).toTerm name)).joined before after source
      fun _ => rfl
  | filter before after _ ih => exact ConditionHolds.placed ih selectWhere before after
  | having before after _ ih => exact ConditionHolds.placed ih selectHaving before after
  | @unionSelect s calls before after keepAll _ ih =>
    exact Placed.united before after (t := fun x => (Select.build (calls x)).toTerm) ih fun _ => rfl
  | @unionUnion s calls before after keepAll _ ih =>
    exact Placed.united before after (t := fun x => (Union.build (calls x)).toTerm) ih fun _ => rfl
  | assignSelect before after _ ih =>
    intro columns
    exact ih.inParens (relocates_assignSelect columns before after _)
  | set before after columns _ ih =>
    exact ((ih columns).trans (relocates_assigned columns before after _)).placed
  | updateJoin before after kind target _ ih =>
    exact ((ih kind false target).trans
      (relocates_updateJoin kind target before after _)).placed
  | updateFilter before after _ ih => exact ConditionHolds.placed ih updateWhere before after
  | conflictFilter columns before after _ ih =>
    exact (ih.within _ _ false).trans
      (relocates_conflictFilter columns before after (ih.visible _ _))
  | doUpdate target before after last _ ih =>
    exact ih.withoutParens (relocates_doUpdate target before after last _)
  | insertSelect before after last _ ih =>
    exact (ih.withoutParens (relocates_insertSelect before after last _)).placed
  | onConflict before after columns last _ ih =>
    exact Within.conflict before after last ih fun _ => rfl
  | onConstraint before after name last _ ih =>
    exact Within.conflict before after last ih fun _ => rfl
  | deleteFilter before after _ ih => exact ConditionHolds.placed ih deleteWhere before after

/-! ## Parentheses -/

def Host.IsInsert (x : H) : Host H → Prop
  | .conflict _ _ => True
  | .program p => ∃ calls, p x = .insert calls
  | _ => False

/-- Only an insert is written around something that has no parentheses of its own. -/
def Host.Allows (embedded : H → Program) (host : Host H) : Setting → Prop
  | .whole => host = .program embedded
  | .bare => ∀ x, host.IsInsert x
  | .enclosed => True

theorem Host.Allows.inParens {embedded : H → Program} {inner host : Host H}
    (h : inner.Allows embedded s) (other : ∀ x, ¬ inner.IsInsert x) :
    host.Allows embedded s.inParens := by
  cases s with
  | whole => trivial
  | bare => exact fun x => absurd (h x) (other x)
  | enclosed => trivial

theorem Host.Allows.withoutParens {embedded : H → Program} {inner host : Host H}
    (h : inner.Allows embedded s) (insert : ∀ x, host.IsInsert x) :
    host.Allows embedded s.withoutParens := by
  cases s with
  | whole => exact insert
  | bare => exact insert
  | enclosed => trivial

theorem Host.Allows.part {embedded : H → Program} {inner host : Host H}
    (h : inner.Allows embedded s) (other : inner ≠ .program embedded)
    (insert : ∀ x, inner.IsInsert x → host.IsInsert x) : host.Allows embedded s := by
  cases s with
  | whole => exact absurd h other
  | bare => exact fun x => insert x (h x)
  | enclosed => trivial

theorem Embeds.allowed {embedded : H → Program} {host : Host H} (h : Embeds embedded s host) :
    host.Allows embedded s := by
  induction h with
  | itself => exact rfl
  | inSelect _ _ _ _ ih => exact ih.inParens (by simp [Host.IsInsert])
  | stepwiseSelect _ _ _ _ _ ih => exact ih.inParens (by simp [Host.IsInsert])
  | columnSelect _ _ _ _ ih => exact ih.inParens (by simp [Host.IsInsert])
  | sourceSelect _ _ _ _ ih => exact ih.inParens (by simp [Host.IsInsert])
  | joinSelect _ _ _ _ _ _ _ _ ih => exact ih.inParens (by simp [Host.IsInsert])
  | joinUnion _ _ _ _ _ _ _ ih => exact ih.inParens (by simp [Host.IsInsert])
  | unionSelect _ _ _ _ ih => exact ih.inParens (by simp [Host.IsInsert])
  | unionUnion _ _ _ _ ih => exact ih.inParens (by simp [Host.IsInsert])
  | assignSelect _ _ _ ih => exact ih.inParens (by simp [Host.IsInsert])
  | doUpdate _ _ _ _ _ ih => exact ih.withoutParens (by simp [Host.IsInsert])
  | insertSelect _ _ _ _ ih => exact ih.withoutParens (by simp [Host.IsInsert])
  | _ =>
    rename_i ih
    exact ih.part (by simp) (by simp [Host.IsInsert])

/-! ## Text and arguments -/

def Setting.opening : Setting → String
  | .enclosed => "("
  | _ => ""

def Setting.closing : Setting → String
  | .enclosed => ")"
  | _ => ""

theorem Placed.relocates {outer : H → List Piece} (h : Placed s sub outer) :
    Relocates (fun x => s.surround (sub x)) outer := by
  cases s with
  | whole =>
    cases h
    exact .refl sub
  | bare => exact h
  | enclosed => exact h

theorem Setting.textFrom_surround (s : Setting) (n : Nat) (pieces : List Piece)
    (h : shows pieces = true) :
    textFrom n (s.surround pieces) = s.opening ++ textFrom n pieces ++ s.closing ∧
      slotValues (s.surround pieces) = slotValues pieces ∧ shows (s.surround pieces) = true := by
  cases s with
  | whole => simp [surround, opening, closing, h]
  | bare => simp [surround, opening, closing, h]
  | enclosed =>
    have around : surround .enclosed pieces = .text "(" :: pieces ++ [.text ")"] := by
      rw [surround, enclosedPieces, if_pos h]
      simp
    rw [around]
    refine ⟨?_, ?_, ?_⟩
    · simp [textFrom_append, opening, closing, String.append_assoc]
    · simp
    · simp [shows, Piece.shows]

theorem Program.query_eq (p : Program) : p.query = assemble (layOut p.terms) :=
  compile_eq_assemble p.terms

/-- What always shows stands between the same pieces wherever it is embedded. -/
theorem Embeds.exists_context {embedded host : H → Program}
    (place : Embeds embedded s (.program host))
    (seen : ∀ x, shows (layOut (embedded x).terms) = true) :
    ∃ before after : List Piece, ∀ x,
      (host x).query = assemble (before ++ layOut (embedded x).terms ++ after) := by
  obtain ⟨before, after, around⟩ := place.holds.relocates
  have whole (x : H) : layOut (host x).terms =
      before ++ s.surround (layOut (embedded x).terms) ++ after :=
    around x (s.textFrom_surround 1 _ (seen x)).2.2
  cases s with
  | whole | bare =>
    refine ⟨before, after, fun x => ?_⟩
    rw [Program.query_eq, whole]
    rfl
  | enclosed =>
    refine ⟨before ++ [.text "("], .text ")" :: after, fun x => ?_⟩
    rw [Program.query_eq, whole, Setting.surround, enclosedPieces, if_pos (seen x)]
    simp

/-- A statement that lacks some terms of another makes another program of the same host
exactly where one of them shows. -/
theorem Embeds.same_query_iff {embedded host : H → Program}
    (place : Embeds embedded s (.program host))
    (seen : ∀ x, shows (layOut (embedded x).terms) = true) {x y : H} {first : Term}
    (shown : shows first.pieces = true) {front between back : List Term}
    (whole : (embedded x).terms = first :: (front ++ between ++ back))
    (bare : (embedded y).terms = first :: (front ++ back)) :
    (host x).query = (host y).query ↔ ∀ t ∈ between, shows t.pieces = false := by
  obtain ⟨before, after, around⟩ := place.exists_context seen
  rw [around, around, whole, bare, assemble_terms_iff before after shown]

/-- The text of an embedded statement is the one it has alone, with each placeholder
raised by the number of arguments in front of its place, and its arguments stand
together behind these.  It is between parentheses of its own, unless it is what an
insert takes its rows from.  What does not show alone has no arguments. -/
theorem substatement_relocates {embedded host : H → Program}
    (place : Embeds embedded s (.program host)) :
    (s = .whole → host = embedded) ∧ (s = .bare → ∀ x, ∃ calls, host x = .insert calls) ∧
    ∃ before after : List Piece, ∀ x,
      ((embedded x).query.sql = "" → (embedded x).query.params = []) ∧
      ((embedded x).query.sql ≠ "" → ∃ fragments,
        (embedded x).query.sql = writeFragments fragments ∧
        placeholders fragments = (embedded x).query.params.zipIdx 1 ∧
        (host x).query.sql = textFrom 1 before ++ s.opening
          ++ writeFragments (fragments.map (Fragment.raise (slotValues before).length))
          ++ s.closing
          ++ textFrom ((slotValues before).length + (embedded x).query.params.length + 1) after ∧
        (host x).query.params =
          slotValues before ++ (embedded x).query.params ++ slotValues after) := by
  have allowed := place.allowed
  obtain ⟨before, after, around⟩ := place.holds.relocates
  refine ⟨?_, ?_, before, after, ?_⟩
  · intro whole
    rw [whole] at allowed
    exact Host.program.inj allowed
  · intro bare
    rw [bare] at allowed
    exact allowed
  intro x
  have alone := (embedded x).query_eq
  rw [alone]
  refine ⟨?_, ?_⟩
  · intro empty
    exact slotValues_of_not_shows _ ((textFrom_eq_empty_iff 1 _).mp empty)
  · intro written
    have seen : shows (layOut (embedded x).terms) = true := by
      simpa [assemble, textFrom_eq_empty_iff] using written
    obtain ⟨text, values, visible⟩ := s.textFrom_surround ((slotValues before).length + 1) _ seen
    have whole : layOut (host x).terms =
        before ++ s.surround (layOut (embedded x).terms) ++ after :=
      around x visible
    refine ⟨number 1 (layOut (embedded x).terms), rfl, placeholders_number 1 _, ?_, ?_⟩
    · have raised := number_raise 1 (slotValues before).length (layOut (embedded x).terms)
      have start : 1 + (slotValues before).length = (slotValues before).length + 1 := by omega
      have behind : 1 + (slotValues before ++ slotValues (layOut (embedded x).terms)).length =
          (slotValues before).length + (slotValues (layOut (embedded x).terms)).length + 1 := by
        rw [List.length_append]
        omega
      rw [(host x).query_eq, whole, assemble, textFrom_append, textFrom_append, slotValues_append,
        values, start, text, ← raised, start, behind]
      simp only [String.append_assoc]
      rfl
    · rw [(host x).query_eq, whole, assemble, slotValues_append, slotValues_append, values]
      rfl

end Embedding

def recentUsers : List SelectCall :=
  [.columns [.word "id"], .sources [.word "users"],
    .filter [.compare (.word "seen") .gt (.literal (.int8 7))]]

def deleteExcept (calls : List SelectCall) : Program :=
  .delete [.table (.word "sessions"), .filter [.compare (.word "age") .ge (.literal (.int8 30)),
    .not [.inSelect (.word "user_id") calls], .rawText "locked"]]

theorem substatement_relocates_recentUsers :
    ∃ (before after : List Piece) (fragments : List Fragment),
      (Program.select recentUsers).query.sql = writeFragments fragments ∧
      (deleteExcept recentUsers).query.sql = textFrom 1 before ++ "("
        ++ writeFragments (fragments.map (Fragment.raise (slotValues before).length)) ++ ")"
        ++ textFrom ((slotValues before).length +
          (Program.select recentUsers).query.params.length + 1) after ∧
      (deleteExcept recentUsers).query.params =
        slotValues before ++ (Program.select recentUsers).query.params ++ slotValues after := by
  have inner : Embeds Program.select .whole (.program Program.select) := .itself
  have condition := Embeds.not [.compare (.word "age") .ge (.literal (.int8 30))]
    [.rawText "locked"] (inner.inSelect [] [] (.word "user_id"))
  have place : Embeds Program.select .enclosed (.program deleteExcept) :=
    condition.deleteFilter [.table (.word "sessions")] []
  obtain ⟨-, -, before, after, relocated⟩ := substatement_relocates place
  have written : (Program.select recentUsers).query.sql ≠ "" := by
    decide
  obtain ⟨fragments, alone, -, text, params⟩ := (relocated recentUsers).2 written
  exact ⟨before, after, fragments, alone, text, params⟩

end BoundSql
