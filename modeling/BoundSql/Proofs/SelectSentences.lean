import BoundSql.Proofs.Sentences

/-! # The sentence of a select

What a select says clause by clause, read off its calls: a clause is there exactly
when some call gives it an item, and every item is one entry of its list.  The order
of the clauses is fixed.  A select or a union inside another one stands in
parentheses, and has a sentence of its own. -/
set_option autoImplicit false
namespace BoundSql

def Term.renders (t : Term) : Bool := shows t.pieces

def Operand.renders : Operand → Bool
  | .field t | .value t => t.renders

def RightSide.renders : RightSide → Bool
  | .value t | .raw t | .field t => t.renders

def RightList.renders : RightList → Bool
  | .values ts | .raws ts => ts.all Term.renders
  | .field t => t.renders

def PredicateTail.renders : PredicateTail → Bool
  | .compare _ (some right) => right.renders
  | .member _ (some right) => right.renders
  | _ => true

def UnionCall.isPart : UnionCall → Bool
  | .select _ _ | .union _ _ => true
  | _ => false

mutual

/-- Every term and every text that is given renders to some text, tables of values
have rows with values, and unions have parts. -/
def ConditionCall.renders : ConditionCall → Bool
  | .compare left _ value | .compareRaw left _ value => left.renders && value.renders
  | .between left low high | .notBetween left low high =>
    left.renders && low.renders && high.renders
  | .isIn left ts | .isInRaw left ts | .notIn left ts | .notInRaw left ts =>
    left.renders && ts.all Term.renders
  | .inSelect left select => left.renders && SelectCall.rendersAll select
  | .isNull left | .isNotNull left => left.renders
  | .rawText sql => !sql.isEmpty
  | .stepwise left tail => left.renders && tail.renders
  | .stepwiseSelect left _ select => left.renders && SelectCall.rendersAll select
  | .not inner | .chained _ inner => ConditionCall.rendersAll inner
  | .mode _ => true

def ConditionCall.rendersAll : List ConditionCall → Bool
  | [] => true
  | call :: rest => call.renders && ConditionCall.rendersAll rest

def SelectCall.renders : SelectCall → Bool
  | .distinct on => on.flatten.all Term.renders
  | .columns ts | .sources ts | .groupBy ts => ts.all Term.renders
  | .columnSelect select _ | .sourceSelect select _ => SelectCall.rendersAll select
  | .sourceValues rows _ =>
    !rows.isEmpty && rows.all fun row => !row.isEmpty && row.all Term.renders
  | .join _ target ties => target.renders && JoinCall.rendersAll ties
  | .joinSelect _ _ select _ ties => SelectCall.rendersAll select && JoinCall.rendersAll ties
  | .joinUnion _ union _ ties =>
    union.any UnionCall.isPart && UnionCall.rendersAll union && JoinCall.rendersAll ties
  | .filter condition | .having condition => ConditionCall.rendersAll condition
  | .orderBy column _ => column.renders
  | .limit _ | .offset _ => true

def SelectCall.rendersAll : List SelectCall → Bool
  | [] => true
  | call :: rest => call.renders && SelectCall.rendersAll rest

def JoinCall.renders : JoinCall → Bool
  | .on condition => ConditionCall.rendersAll condition
  | .usingColumns ts => ts.all Term.renders

def JoinCall.rendersAll : List JoinCall → Bool
  | [] => true
  | call :: rest => call.renders && JoinCall.rendersAll rest

def UnionCall.renders : UnionCall → Bool
  | .select _ select => SelectCall.rendersAll select
  | .union _ union => union.any UnionCall.isPart && UnionCall.rendersAll union
  | .orderBy column _ => column.renders
  | .limit _ | .offset _ => true

def UnionCall.rendersAll : List UnionCall → Bool
  | [] => true
  | call :: rest => call.renders && UnionCall.rendersAll rest

end

def Program.renders : Program → Bool
  | .select calls => SelectCall.rendersAll calls
  | .union calls => calls.any UnionCall.isPart && UnionCall.rendersAll calls
  | _ => false

mutual

/-- The selects and unions inside a call, at any depth. -/
def ConditionCall.inside : ConditionCall → List Program
  | .inSelect _ select | .stepwiseSelect _ _ select =>
    .select select :: SelectCall.insideAll select
  | .not inner | .chained _ inner => ConditionCall.insideAll inner
  | _ => []

def ConditionCall.insideAll : List ConditionCall → List Program
  | [] => []
  | call :: rest => call.inside ++ ConditionCall.insideAll rest

def SelectCall.inside : SelectCall → List Program
  | .columnSelect select _ | .sourceSelect select _ =>
    .select select :: SelectCall.insideAll select
  | .join _ _ ties => JoinCall.insideAll ties
  | .joinSelect _ _ select _ ties =>
    .select select :: SelectCall.insideAll select ++ JoinCall.insideAll ties
  | .joinUnion _ union _ ties =>
    .union union :: UnionCall.insideAll union ++ JoinCall.insideAll ties
  | .filter condition | .having condition => ConditionCall.insideAll condition
  | _ => []

def SelectCall.insideAll : List SelectCall → List Program
  | [] => []
  | call :: rest => call.inside ++ SelectCall.insideAll rest

def JoinCall.inside : JoinCall → List Program
  | .on condition => ConditionCall.insideAll condition
  | .usingColumns _ => []

def JoinCall.insideAll : List JoinCall → List Program
  | [] => []
  | call :: rest => call.inside ++ JoinCall.insideAll rest

def UnionCall.inside : UnionCall → List Program
  | .select _ select => .select select :: SelectCall.insideAll select
  | .union _ union => .union union :: UnionCall.insideAll union
  | _ => []

def UnionCall.insideAll : List UnionCall → List Program
  | [] => []
  | call :: rest => call.inside ++ UnionCall.insideAll rest

end

def listPart (keyword : String) (entries : List (List Piece)) : List Part :=
  if entries.isEmpty then [] else [.word keyword, .listed entries]

def bracketedPart (keyword : String) (entries : List (List Piece)) : List Part :=
  if entries.isEmpty then [] else [.word keyword, .bracketed entries]

def conditionPart (keyword : String) (calls : List ConditionCall) : List Part :=
  if (completed calls).isEmpty then [] else [.word keyword, .condition calls]

def numberPart (keyword : String) (numbers : List Int64) : List Part :=
  match numbers.getLast? with
  | none => []
  | some n => [.word keyword, .word (int8Text n)]

def orderEntry (column : Term) (words : List OrderWord) : List Piece :=
  let item := OrderItem.of column words
  spaced (column.pieces :: (item.direction.toList ++ item.nulls.toList).map fun s => [.text s])

def SelectCall.asksDistinct : SelectCall → Bool
  | .distinct _ => true
  | _ => false

def SelectCall.distinctEntries : SelectCall → List (List Piece)
  | .distinct on => on.flatten.map Term.pieces
  | _ => []

def SelectCall.columnEntries : SelectCall → List (List Piece)
  | .columns ts => ts.map Term.pieces
  | .columnSelect select name => [named (layOut (Select.build select).terms) name]
  | _ => []

def valuesEntry (rows : List (List Term)) : List Piece :=
  spaced [[.text "values"], listed (rows.map fun row => bracketed (row.map fun t => t.arg.pieces))]

def SelectCall.sourceEntries : SelectCall → List (List Piece)
  | .sources ts => ts.map Term.pieces
  | .sourceSelect select name => [named (layOut (Select.build select).terms) name]
  | .sourceValues rows name => [named (valuesEntry rows) name]
  | _ => []

def joinSentence (kind : JoinKind) (lateral : Bool) (target : List Piece) (ties : List JoinCall) :
    List Part :=
  [.word kind.text] ++ (if lateral then [.word "lateral"] else []) ++ [.entry target]
    ++ conditionPart "on" (ties.flatMap JoinCall.conditions)
    ++ bracketedPart "using" ((ties.flatMap JoinCall.tied).map Term.pieces)

def SelectCall.joinSentence : SelectCall → List Part
  | .join kind target ties => BoundSql.joinSentence kind false target.pieces ties
  | .joinSelect kind lateral select name ties =>
    BoundSql.joinSentence kind lateral (named (layOut (Select.build select).terms) name) ties
  | .joinUnion kind union name ties =>
    BoundSql.joinSentence kind false (named (layOut (Union.build union).terms) name) ties
  | _ => []

def SelectCall.groupEntries : SelectCall → List (List Piece)
  | .groupBy ts => ts.map Term.pieces
  | _ => []

def SelectCall.orderEntries : SelectCall → List (List Piece)
  | .orderBy column words => [orderEntry column words]
  | _ => []

def selectSentence (calls : List SelectCall) : List Part :=
  let columns := calls.flatMap SelectCall.columnEntries
  let sources := calls.flatMap SelectCall.sourceEntries
  [.word "select"]
    ++ (if calls.any SelectCall.asksDistinct then
        .word "distinct" :: bracketedPart "on" (calls.flatMap SelectCall.distinctEntries)
      else [])
    ++ (if columns.isEmpty then [] else [.listed columns])
    ++ (if sources.isEmpty then []
      else [.word "from", .listed sources] ++ calls.flatMap SelectCall.joinSentence)
    ++ conditionPart "where" (calls.flatMap SelectCall.filters)
    ++ bracketedPart "group by" (calls.flatMap SelectCall.groupEntries)
    ++ conditionPart "having" (calls.flatMap SelectCall.havings)
    ++ listPart "order by" (calls.flatMap SelectCall.orderEntries)
    ++ numberPart "limit" (calls.flatMap SelectCall.limits)
    ++ numberPart "offset" (calls.flatMap SelectCall.offsets)

def UnionCall.partEntries : UnionCall → List (Bool × List Piece)
  | .select keepAll calls => [(keepAll, layOut (Select.build calls).terms)]
  | .union keepAll calls => [(keepAll, layOut (Union.build calls).terms)]
  | _ => []

def UnionCall.orderEntries : UnionCall → List (List Piece)
  | .orderBy column words => [orderEntry column words]
  | _ => []

/-- The parts of a union, each in parentheses, with keywords between them. -/
def partsSentence : List (Bool × List Piece) → List Part
  | [] => []
  | part :: rest => .bracketed [part.2] ::
    rest.flatMap fun p => [.word (unionKeyword p.1), .bracketed [p.2]]

def unionSentence (calls : List UnionCall) : List Part :=
  partsSentence (calls.flatMap UnionCall.partEntries)
    ++ listPart "order by" (calls.flatMap UnionCall.orderEntries)
    ++ numberPart "limit" (calls.flatMap UnionCall.limits)
    ++ numberPart "offset" (calls.flatMap UnionCall.offsets)

def Program.sentence : Program → List Part
  | .select calls => selectSentence calls
  | .union calls => unionSentence calls
  | _ => []

end BoundSql
