import BoundSql.Program.Build
import BoundSql.Proofs.Pieces

/-! # Filling the places of a program

A program has places for values: plain literals but null where a clause takes
values, literals but null that stand directly in `any` or `all`, and bound values
everywhere.  The value that stands in a place names it, and a filling puts
something else into every place, by its name.  Two programs that differ in such
values only are two fillings of one form, in which each place has a name of its
own. -/
set_option autoImplicit false
namespace BoundSql

/-- What can stand in a place: a literal but null, or a bound value. -/
structure Filler where
  term : Term
  value : Value
  binds : term.arg = .bound value

abbrev Filling := Value → Filler

def Literal.fill (f : Filling) (l : Literal) : Term :=
  match l.payloadPiece with
  | .slot place => (f place).term
  | .text _ => .literal l

mutual

/-- Fills the places of a term that stands for itself: a plain literal is none. -/
def Term.fill (f : Filling) : Term → Term
  | .bound place => .bound (f place).value
  | .quantified q (.literal l) => .quantified q (l.fill f)
  | .quantified q (.bound place) => .quantified q (f place).term
  | .quantified q payload => .quantified q (payload.fill f)
  | .group separator items => .group separator (Term.fillEach f items)
  | .paren lead separator items => .paren lead separator (Term.fillEach f items)
  | .nested items => .nested (Term.fillEach f items)
  | .literal l => .literal l
  | .unbound l => .unbound l
  | .default => .default

def Term.fillEach (f : Filling) : List Term → List Term
  | [] => []
  | t :: rest => t.fill f :: Term.fillEach f rest

end

def Term.fillValue (f : Filling) : Term → Term
  | .literal l => l.fill f
  | .bound place => (f place).term
  | t => t.fill f

/-- Fills the places of a term that is given as raw SQL, where a literal is no
place, nor is it inside `any` and `all`. -/
def Term.fillRaw (f : Filling) : Term → Term
  | .quantified q payload => .quantified q (payload.fillRaw f)
  | t => t.fill f

def Operand.fill (f : Filling) : Operand → Operand
  | .field t => .field (t.fill f)
  | .value t => .value (t.fillValue f)

def RightSide.fill (f : Filling) : RightSide → RightSide
  | .value t => .value (t.fillValue f)
  | .raw t => .raw (t.fillRaw f)
  | .field t => .field (t.fillRaw f)

def RightList.fill (f : Filling) : RightList → RightList
  | .values ts => .values (ts.map (Term.fillValue f))
  | .raws ts => .raws (ts.map (Term.fillRaw f))
  | .field t => .field (t.fillRaw f)

def PredicateTail.fill (f : Filling) : PredicateTail → PredicateTail
  | .compare operator right => .compare operator (right.map (RightSide.fill f))
  | .member operator right => .member operator (right.map (RightList.fill f))
  | tail => tail

mutual

def ConditionCall.fill (f : Filling) : ConditionCall → ConditionCall
  | .compare left operator value => .compare (left.fill f) operator (value.fillValue f)
  | .compareRaw left operator value => .compareRaw (left.fill f) operator (value.fillRaw f)
  | .between left low high => .between (left.fill f) (low.fillValue f) (high.fillValue f)
  | .notBetween left low high => .notBetween (left.fill f) (low.fillValue f) (high.fillValue f)
  | .isIn left values => .isIn (left.fill f) (values.map (Term.fillValue f))
  | .isInRaw left values => .isInRaw (left.fill f) (values.map (Term.fillRaw f))
  | .notIn left values => .notIn (left.fill f) (values.map (Term.fillValue f))
  | .notInRaw left values => .notInRaw (left.fill f) (values.map (Term.fillRaw f))
  | .inSelect left select => .inSelect (left.fill f) (SelectCall.fillAll f select)
  | .isNull left => .isNull (left.fill f)
  | .isNotNull left => .isNotNull (left.fill f)
  | .rawText sql => .rawText sql
  | .stepwise left tail => .stepwise (left.fill f) (tail.fill f)
  | .stepwiseSelect left operator select =>
    .stepwiseSelect (left.fill f) operator (SelectCall.fillAll f select)
  | .not inner => .not (ConditionCall.fillAll f inner)
  | .chained connective inner => .chained connective (ConditionCall.fillAll f inner)
  | .mode connective => .mode connective

def ConditionCall.fillAll (f : Filling) : List ConditionCall → List ConditionCall
  | [] => []
  | call :: rest => call.fill f :: ConditionCall.fillAll f rest

def SelectCall.fill (f : Filling) : SelectCall → SelectCall
  | .distinct on => .distinct (on.map (Term.fillEach f))
  | .columns columns => .columns (Term.fillEach f columns)
  | .columnSelect select name => .columnSelect (SelectCall.fillAll f select) name
  | .sources sources => .sources (Term.fillEach f sources)
  | .sourceSelect select name => .sourceSelect (SelectCall.fillAll f select) name
  | .sourceValues rows name => .sourceValues (rows.map (List.map (Term.fillValue f))) name
  | .join kind target ties => .join kind (target.fill f) (JoinCall.fillAll f ties)
  | .joinSelect kind lateral select name ties =>
    .joinSelect kind lateral (SelectCall.fillAll f select) name (JoinCall.fillAll f ties)
  | .joinUnion kind union name ties =>
    .joinUnion kind (UnionCall.fillAll f union) name (JoinCall.fillAll f ties)
  | .filter condition => .filter (ConditionCall.fillAll f condition)
  | .groupBy columns => .groupBy (Term.fillEach f columns)
  | .having condition => .having (ConditionCall.fillAll f condition)
  | .orderBy column words => .orderBy (column.fill f) words
  | .limit n => .limit n
  | .offset n => .offset n

def SelectCall.fillAll (f : Filling) : List SelectCall → List SelectCall
  | [] => []
  | call :: rest => call.fill f :: SelectCall.fillAll f rest

def JoinCall.fill (f : Filling) : JoinCall → JoinCall
  | .on condition => .on (ConditionCall.fillAll f condition)
  | .usingColumns columns => .usingColumns (Term.fillEach f columns)

def JoinCall.fillAll (f : Filling) : List JoinCall → List JoinCall
  | [] => []
  | call :: rest => call.fill f :: JoinCall.fillAll f rest

def UnionCall.fill (f : Filling) : UnionCall → UnionCall
  | .select keepAll select => .select keepAll (SelectCall.fillAll f select)
  | .union keepAll union => .union keepAll (UnionCall.fillAll f union)
  | .orderBy column words => .orderBy (column.fill f) words
  | .limit n => .limit n
  | .offset n => .offset n

def UnionCall.fillAll (f : Filling) : List UnionCall → List UnionCall
  | [] => []
  | call :: rest => call.fill f :: UnionCall.fillAll f rest

end

def AssignmentCall.fill (f : Filling) : AssignmentCall → AssignmentCall
  | .to values => .to (values.map (Term.fillValue f))
  | .toRaw values => .toRaw (values.map (Term.fillRaw f))
  | .select calls => .select (SelectCall.fillAll f calls)

def UpdateCall.fill (f : Filling) : UpdateCall → UpdateCall
  | .table t => .table (t.fill f)
  | .set columns values => .set (Term.fillEach f columns) (values.map (AssignmentCall.fill f))
  | .sources ts => .sources (Term.fillEach f ts)
  | .join kind target ties => .join kind (target.fill f) (JoinCall.fillAll f ties)
  | .filter condition => .filter (ConditionCall.fillAll f condition)
  | .whereCurrentOf cursor => .whereCurrentOf (cursor.fill f)
  | .returning ts => .returning (Term.fillEach f ts)

def ConflictCall.fill (f : Filling) : ConflictCall → ConflictCall
  | .filter condition => .filter (ConditionCall.fillAll f condition)
  | .doNothing => .doNothing
  | .doUpdate update => .doUpdate (update.map (UpdateCall.fill f))

def InsertCall.fill (f : Filling) : InsertCall → InsertCall
  | .into t => .into (t.fill f)
  | .columns ts => .columns (Term.fillEach f ts)
  | .overriding o => .overriding o
  | .defaultValues => .defaultValues
  | .value row => .value (row.map (Term.fillValue f))
  | .values rows => .values (rows.map (List.map (Term.fillValue f)))
  | .select calls => .select (SelectCall.fillAll f calls)
  | .onConflict targets calls =>
    .onConflict (Term.fillEach f targets) (calls.map (ConflictCall.fill f))
  | .onConflictOnConstraint name calls =>
    .onConflictOnConstraint (name.fill f) (calls.map (ConflictCall.fill f))
  | .returning ts => .returning (Term.fillEach f ts)

def DeleteCall.fill (f : Filling) : DeleteCall → DeleteCall
  | .table t => .table (t.fill f)
  | .filter condition => .filter (ConditionCall.fillAll f condition)
  | .returning ts => .returning (Term.fillEach f ts)

def Program.fill (f : Filling) : Program → Program
  | .select calls => .select (SelectCall.fillAll f calls)
  | .insert calls => .insert (calls.map (InsertCall.fill f))
  | .update calls => .update (calls.map (UpdateCall.fill f))
  | .delete calls => .delete (calls.map (DeleteCall.fill f))
  | .union calls => .union (UnionCall.fillAll f calls)

/-- Blots out every value: two programs differ in their values only exactly where
they are the same without them. -/
def Program.blank (p : Program) : Program :=
  p.fill fun _ => ⟨.bound (.bool true), .bool true, rfl⟩

end BoundSql
