import BoundSql.Term.Basic

/-! # The boolean grammar of SQL

A condition is read as a row of tokens: parentheses, the words `not`, `and` and
`or`, constants, and atoms, each of which is one opaque token whatever its text.
Parentheses bind tightest, then `not`, then `and`, then `or`.  `Reads` is that
grammar, and `Reads.unique` says that a row of tokens has at most one reading;
the proof follows a reader that keeps what is open on a stack. -/
set_option autoImplicit false
namespace BoundSql

inductive Token
  | opening
  | closing
  | not
  | and
  | or
  | constant (b : Bool)
  | atom (t : Term)

inductive Formula
  | constant (b : Bool)
  | atom (t : Term)
  | not (x : Formula)
  | and (x y : Formula)
  | or (x y : Formula)

def Formula.eval (truth : Term → Bool) : Formula → Bool
  | .constant b => b
  | .atom t => truth t
  | .not x => !x.eval truth
  | .and x y => x.eval truth && y.eval truth
  | .or x y => x.eval truth || y.eval truth

def Formula.atoms : Formula → List Term
  | .constant _ => []
  | .atom t => [t]
  | .not x => x.atoms
  | .and x y => x.atoms ++ y.atoms
  | .or x y => x.atoms ++ y.atoms

/-- Formulas with the same atoms that hold together. -/
structure Formula.Agrees (x y : Formula) : Prop where
  atoms : x.atoms = y.atoms
  value : ∀ truth, x.eval truth = y.eval truth

theorem Formula.Agrees.refl (x : Formula) : x.Agrees x := ⟨rfl, fun _ => rfl⟩

theorem Formula.Agrees.trans {x y z : Formula} (h : x.Agrees y) (k : y.Agrees z) : x.Agrees z :=
  ⟨h.atoms.trans k.atoms, fun truth => (h.value truth).trans (k.value truth)⟩

theorem Formula.Agrees.not {x y : Formula} (h : x.Agrees y) :
    (Formula.not x).Agrees (.not y) := by
  refine ⟨h.atoms, ?_⟩
  intro truth
  rw [Formula.eval, Formula.eval, h.value]

theorem Formula.Agrees.and {x y z w : Formula} (h : x.Agrees y) (k : z.Agrees w) :
    (Formula.and x z).Agrees (.and y w) := by
  refine ⟨?_, ?_⟩
  · rw [Formula.atoms, Formula.atoms, h.atoms, k.atoms]
  · intro truth
    rw [Formula.eval, Formula.eval, h.value, k.value]

theorem Formula.Agrees.or {x y z w : Formula} (h : x.Agrees y) (k : z.Agrees w) :
    (Formula.or x z).Agrees (.or y w) := by
  refine ⟨?_, ?_⟩
  · rw [Formula.atoms, Formula.atoms, h.atoms, k.atoms]
  · intro truth
    rw [Formula.eval, Formula.eval, h.value, k.value]

theorem Formula.or_assoc (x y z : Formula) :
    (Formula.or (.or x y) z).Agrees (.or x (.or y z)) := by
  refine ⟨?_, ?_⟩
  · simp [Formula.atoms]
  · intro truth
    simp [Formula.eval, Bool.or_assoc]

def Token.atom? : Token → Option Term
  | .atom t => some t
  | _ => none

/-- How tightly a phrase binds. -/
inductive Level
  | primary
  | negation
  | conjunction
  | disjunction

/-- The grammar.  A phrase of one level can stand for one of the next. -/
inductive Reads : Level → List Token → Formula → Prop
  | constant (b : Bool) : Reads .primary [.constant b] (.constant b)
  | atom (t : Term) : Reads .primary [.atom t] (.atom t)
  | parens {ts : List Token} {x : Formula} (h : Reads .disjunction ts x) :
    Reads .primary (.opening :: ts ++ [.closing]) x
  | primary {ts : List Token} {x : Formula} (h : Reads .primary ts x) : Reads .negation ts x
  | not {ts : List Token} {x : Formula} (h : Reads .negation ts x) :
    Reads .negation (.not :: ts) (.not x)
  | negation {ts : List Token} {x : Formula} (h : Reads .negation ts x) : Reads .conjunction ts x
  | and {ts us : List Token} {x y : Formula} (h : Reads .conjunction ts x)
    (k : Reads .negation us y) : Reads .conjunction (ts ++ .and :: us) (.and x y)
  | conjunction {ts : List Token} {x : Formula} (h : Reads .conjunction ts x) :
    Reads .disjunction ts x
  | or {ts us : List Token} {x y : Formula} (h : Reads .disjunction ts x)
    (k : Reads .conjunction us y) : Reads .disjunction (ts ++ .or :: us) (.or x y)

/-- A reading has the atoms of its tokens, in their order. -/
theorem Reads.atoms {level : Level} {ts : List Token} {x : Formula} (h : Reads level ts x) :
    ts.filterMap Token.atom? = x.atoms := by
  induction h with
  | constant b => rfl
  | atom t => rfl
  | parens _ ih => simp [List.filterMap_cons, Token.atom?, ih]
  | primary _ ih => exact ih
  | not _ ih => exact ih
  | negation _ ih => exact ih
  | and _ _ first second => simp [List.filterMap_cons, Token.atom?, Formula.atoms, first, second]
  | conjunction _ ih => exact ih
  | or _ _ first second => simp [List.filterMap_cons, Token.atom?, Formula.atoms, first, second]

/-- What stands in front of the next operand inside one pair of parentheses: the
disjunction before the last `or`, the conjunction before the last `and`, and the
number of `not` words. -/
structure Pending where
  disjunction : Option Formula := none
  conjunction : Option Formula := none
  nots : Nat := 0

inductive ReaderState
  | waiting (pending : Pending) (outer : List Pending)
  | complete (disjunction : Option Formula) (conjunction : Formula) (outer : List Pending)

def negate : Nat → Formula → Formula
  | 0, x => x
  | n + 1, x => negate n (.not x)

def conjoin : Option Formula → Formula → Formula
  | none, y => y
  | some x, y => .and x y

def disjoin : Option Formula → Formula → Formula
  | none, y => y
  | some x, y => .or x y

def Pending.take (p : Pending) (x : Formula) (outer : List Pending) : ReaderState :=
  .complete p.disjunction (conjoin p.conjunction (negate p.nots x)) outer

def ReaderState.step : ReaderState → Token → Option ReaderState
  | .waiting p outer, .constant b => some (p.take (.constant b) outer)
  | .waiting p outer, .atom t => some (p.take (.atom t) outer)
  | .waiting p outer, .not => some (.waiting { p with nots := p.nots + 1 } outer)
  | .waiting p outer, .opening => some (.waiting {} (p :: outer))
  | .complete d c outer, .closing =>
    match outer with
    | [] => none
    | p :: rest => some (p.take (disjoin d c) rest)
  | .complete d c outer, .and => some (.waiting { disjunction := d, conjunction := some c } outer)
  | .complete d c outer, .or => some (.waiting { disjunction := some (disjoin d c) } outer)
  | _, _ => none

def ReaderState.run : List Token → ReaderState → Option ReaderState
  | [], s => some s
  | t :: rest, s =>
    match s.step t with
    | some next => ReaderState.run rest next
    | none => none

/-- The formula of a row of tokens that is a whole condition. -/
def readTokens (ts : List Token) : Option Formula :=
  match ReaderState.run ts (.waiting {} []) with
  | some (.complete d c []) => some (disjoin d c)
  | _ => none

theorem ReaderState.run_append (ts us : List Token) (s next : ReaderState)
    (h : ReaderState.run ts s = some next) :
    ReaderState.run (ts ++ us) s = ReaderState.run us next := by
  induction ts generalizing s with
  | nil =>
    cases h
    rfl
  | cons t rest ih =>
    rw [List.cons_append, ReaderState.run]
    rw [ReaderState.run] at h
    cases step : s.step t with
    | none => simp [step] at h
    | some after =>
      simp only [step] at h
      exact ih after h

/-- What the reader does on a phrase of each level.  Inside a conjunction nothing
is pending before its first operand, and inside a disjunction nothing at all. -/
def Level.ReadBy : Level → List Token → Formula → Prop
  | .primary, ts, x | .negation, ts, x =>
    ∀ p outer, ReaderState.run ts (.waiting p outer) = some (p.take x outer)
  | .conjunction, ts, x =>
    ∀ d outer, ReaderState.run ts (.waiting { disjunction := d } outer) = some (.complete d x outer)
  | .disjunction, ts, x =>
    ∀ outer, ∃ d c, ReaderState.run ts (.waiting {} outer) = some (.complete d c outer) ∧
      disjoin d c = x

/-- The reader follows every derivation of the grammar. -/
theorem Reads.readBy {level : Level} {ts : List Token} {x : Formula} (h : Reads level ts x) :
    level.ReadBy ts x := by
  induction h with
  | constant b => exact fun _ _ => rfl
  | atom t => exact fun _ _ => rfl
  | @parens ts x _ ih =>
    -- what is pending outside waits on the stack until the closing parenthesis
    intro p outer
    obtain ⟨d, c, run, joined⟩ := ih (p :: outer)
    have opened : ReaderState.run (.opening :: ts) (.waiting p outer) =
        some (.complete d c (p :: outer)) := run
    rw [ReaderState.run_append _ _ _ _ opened, ← joined]
    rfl
  | primary _ ih => exact ih
  | @not ts x _ ih =>
    intro p outer
    exact ih { p with nots := p.nots + 1 } outer
  | negation _ ih =>
    intro d outer
    exact ih { disjunction := d } outer
  | @and ts us x y _ _ first second =>
    intro d outer
    rw [ReaderState.run_append _ _ _ _ (first d outer)]
    exact second { disjunction := d, conjunction := some x } outer
  | @conjunction ts x _ ih =>
    intro outer
    exact ⟨none, x, ih none outer, rfl⟩
  | @or ts us x y _ _ first second =>
    -- the first phrase may itself be split into a disjunction and a last conjunction
    intro outer
    obtain ⟨d, c, run, joined⟩ := first outer
    rw [ReaderState.run_append _ _ _ _ run]
    subst joined
    exact ⟨some (disjoin d c), y, second (some (disjoin d c)) outer, rfl⟩

theorem Reads.readTokens {ts : List Token} {x : Formula} (h : Reads .disjunction ts x) :
    readTokens ts = some x := by
  obtain ⟨d, c, run, joined⟩ := h.readBy []
  rw [BoundSql.readTokens, run, ← joined]

/-- A row of tokens has at most one reading. -/
theorem Reads.unique {ts : List Token} {x y : Formula} (h : Reads .disjunction ts x)
    (k : Reads .disjunction ts y) : x = y :=
  Option.some.inj (h.readTokens.symm.trans k.readTokens)

end BoundSql
