import BoundSql.Proofs.Pieces

/-! # Wrappers around a term

A term can be marked as an argument, as no argument or as raw SQL, and it can be put
into `any` or `all`, once or many times and in any order.  The first mark settles what a
literal is, the first of `any` and `all` is the only one that is kept, and behind it
nothing but raw reaches the literal. -/
set_option autoImplicit false
namespace BoundSql

inductive Wrapper
  | arg
  | notArg
  | raw
  | quantify (q : Quantifier)
deriving DecidableEq

def Wrapper.apply : Wrapper → Term → Term
  | .arg => Term.arg
  | .notArg => Term.notArg
  | .raw => Term.raw
  | .quantify q => Term.quantify q

def Term.wrapAll (ws : List Wrapper) (t : Term) : Term := ws.foldl (fun t w => w.apply t) t

def Wrapper.isMark : Wrapper → Bool
  | .arg | .notArg | .raw => true
  | .quantify _ => false

def Wrapper.quantifier? : Wrapper → Option Quantifier
  | .quantify q => some q
  | .arg | .notArg | .raw => none

def firstQuantifier (ws : List Wrapper) : Option Quantifier := ws.findSome? Wrapper.quantifier?

def beforeQuantifier (ws : List Wrapper) : List Wrapper :=
  ws.takeWhile fun w => w.quantifier?.isNone

/-- A literal is bound where the first mark in front of `any` and `all` says so, or where
it stands in `any` or `all` with no mark in front and no raw behind. -/
def Binds (ws : List Wrapper) : Prop :=
  (beforeQuantifier ws).find? Wrapper.isMark = some .arg ∨
    ∃ before q after, ws = before ++ .quantify q :: after ∧
      (∀ w ∈ before, w.isMark = false) ∧ .raw ∉ after

/-- The `any` and `all` around a term, from the outside. -/
def Term.layers : Term → List Quantifier
  | .quantified q payload => q :: payload.layers
  | _ => []

def inLayer (q : Option Quantifier) (s : String) : String :=
  match q with
  | some q => q.around s
  | none => s

theorem Term.raw_raw (t : Term) : t.raw.raw = t.raw := by
  induction t using Term.raw.induct with
  | case1 l => rfl
  | case2 q payload ih => rw [raw, raw, ih]
  | case3 t plain layered =>
    cases t with
    | literal l => exact absurd rfl (plain l)
    | quantified q payload => exact absurd rfl (layered q payload)
    | _ => rfl

theorem Literal.arg_arg (l : Literal) : l.arg.arg = l.arg := by
  cases l <;> rfl

theorem Term.arg_arg (t : Term) : t.arg.arg = t.arg := by
  cases t with
  | literal l => exact l.arg_arg
  | _ => rfl

/-- Nothing that a wrapper makes is classified again. -/
theorem Wrapper.arg_apply (w : Wrapper) (t : Term) : (w.apply t).arg = w.apply t := by
  cases w with
  | arg => exact t.arg_arg
  | _ => cases t <;> rfl

theorem Wrapper.apply_apply (w : Wrapper) (t : Term) : w.apply (w.apply t) = w.apply t := by
  cases w with
  | arg => exact t.arg_arg
  | notArg => cases t <;> rfl
  | raw => exact t.raw_raw
  | quantify q => cases t <;> rfl

section Rows
variable (ws : List Wrapper)

theorem firstQuantifier_mark {w : Wrapper} (mark : w.quantifier? = none) :
    firstQuantifier (w :: ws) = firstQuantifier ws := by
  rw [firstQuantifier, List.findSome?_cons, mark]
  rfl

theorem firstQuantifier_quantify (q : Quantifier) :
    firstQuantifier (.quantify q :: ws) = some q := rfl

def Term.quantifiedBy (q : Option Quantifier) (t : Term) : Term :=
  match q with
  | some q => .quantified q t
  | none => t

/-- Inside `any` and `all` only raw comes through. -/
theorem Term.wrapAll_quantified (q : Quantifier) (payload : Term) :
    (Term.quantified q payload).wrapAll ws =
      .quantified q (if .raw ∈ ws then payload.raw else payload) := by
  induction ws generalizing payload with
  | nil => rfl
  | cons w rest ih =>
    cases w with
    | raw =>
      have inside : (Term.quantified q payload).wrapAll (.raw :: rest) =
          (Term.quantified q payload.raw).wrapAll rest := rfl
      rw [inside, ih, payload.raw_raw, ite_self, if_pos List.mem_cons_self]
    | _ =>
      refine (ih payload).trans ?_
      simp

/-- A literal that is marked. -/
inductive Settled : Term → Prop
  | bound (v : Value) : Settled (.bound v)
  | unbound (l : Literal) : Settled (.unbound l)

theorem Literal.settled_arg (l : Literal) : Settled l.arg := by
  rcases l.arg_eq_bound_or_null with ⟨v, bound⟩ | null
  · rw [bound]
    exact .bound v
  · rw [null]
    exact .unbound .null

theorem Settled.wrapAll {t : Term} (h : Settled t) :
    t.wrapAll ws = t.quantifiedBy (firstQuantifier ws) := by
  induction ws with
  | nil => rfl
  | cons w rest ih =>
    cases w with
    | quantify q =>
      have around : t.wrapAll (.quantify q :: rest) = (Term.quantified q t).wrapAll rest := by
        cases h <;> rfl
      have raw : t.raw = t := by cases h <;> rfl
      rw [around, Term.wrapAll_quantified, raw, ite_self, firstQuantifier_quantify]
      rfl
    | _ =>
      rw [firstQuantifier_mark rest rfl, ← ih]
      cases h <;> rfl

/-- What a literal comes to inside `any` and `all`. -/
def Literal.core (l : Literal) : Term :=
  match ws with
  | [] => .literal l
  | .arg :: _ => l.arg
  | .notArg :: _ | .raw :: _ => .unbound l
  | .quantify _ :: rest => if .raw ∈ rest then .unbound l else .literal l

theorem Literal.wrapAll_eq (l : Literal) :
    (Term.literal l).wrapAll ws = (l.core ws).quantifiedBy (firstQuantifier ws) := by
  cases ws with
  | nil => rfl
  | cons w rest =>
    cases w with
    | arg => exact l.settled_arg.wrapAll rest
    | notArg => exact (Settled.unbound l).wrapAll rest
    | raw => exact (Settled.unbound l).wrapAll rest
    | quantify q => exact Term.wrapAll_quantified rest q (.literal l)

theorem Literal.layers_core (l : Literal) : (l.core ws).layers = [] := by
  have classified : l.arg.layers = [] := by cases l <;> rfl
  match ws with
  | [] => rfl
  | .arg :: _ => exact classified
  | .notArg :: _ | .raw :: _ => rfl
  | .quantify _ :: rest =>
    rw [core]
    split <;> rfl

theorem Term.layers_quantifiedBy {t : Term} (bare : t.layers = []) (q : Option Quantifier) :
    (t.quantifiedBy q).layers = q.toList := by
  cases q with
  | none => exact bare
  | some q => exact congrArg (q :: ·) bare

end Rows

theorem binds_nil : ¬ Binds [] := by
  rintro (marked | ⟨before, q, after, split, -⟩)
  · cases marked
  · simp at split

theorem binds_arg (ws : List Wrapper) : Binds (.arg :: ws) := .inl rfl

theorem not_binds_mark {w : Wrapper} (mark : w.isMark = true) (other : w ≠ .arg)
    (ws : List Wrapper) : ¬ Binds (w :: ws) := by
  rintro (marked | ⟨before, q, after, split, unmarked, -⟩)
  · cases w with
    | arg => exact other rfl
    | notArg => cases marked
    | raw => cases marked
    | quantify q => cases mark
  · cases before with
    | nil =>
      cases split
      cases mark
    | cons first rest =>
      obtain ⟨rfl, -⟩ := List.cons.inj split
      rw [unmarked w List.mem_cons_self] at mark
      cases mark

theorem binds_quantify_iff (q : Quantifier) (ws : List Wrapper) :
    Binds (.quantify q :: ws) ↔ .raw ∉ ws := by
  constructor
  · rintro (marked | ⟨before, r, after, split, unmarked, bare⟩)
    · cases marked
    · cases before with
      | nil =>
        obtain ⟨-, rfl⟩ := List.cons.inj split
        exact bare
      | cons first rest =>
        -- all in front of the other `any` or `all` are such too
        obtain ⟨-, rfl⟩ := List.cons.inj split
        intro member
        rcases List.mem_append.mp member with inside | behind
        · exact Bool.noConfusion (unmarked .raw (List.mem_cons_of_mem _ inside))
        · exact bare ((List.mem_cons.mp behind).resolve_left (by simp))
  · intro bare
    exact .inr ⟨[], q, ws, rfl, by simp, bare⟩

section Written
variable (q : Option Quantifier)

theorem compile_singleton (t : Term) :
    compile [t] = ⟨(t.write .empty).1, (t.write .empty).2.toList⟩ := by
  have alone (s : String) : joinTexts " " [s] = s := by
    by_cases empty : s = ""
    · rw [empty]
      rfl
    · simp [joinTexts, empty]
  rw [compile, Term.writeEach, Term.writeEach, alone]

theorem compile_settled {t : Term} (h : Settled t) :
    compile [t.quantifiedBy q] = ⟨inLayer q (t.write .empty).1, (t.write .empty).2.toList⟩ := by
  have marked : t.arg = t := by cases h <;> rfl
  rw [compile_singleton]
  cases q with
  | none => rfl
  | some q => rw [Term.quantifiedBy, Term.write_quantified, marked]; rfl

theorem compile_bound (v : Value) :
    compile [(Term.bound v).quantifiedBy q] = ⟨inLayer q (placeholder 1), [v]⟩ :=
  compile_settled q (.bound v)

theorem compile_unbound (l : Literal) :
    compile [(Term.unbound l).quantifiedBy q] = ⟨inLayer q l.render, []⟩ :=
  compile_settled q (.unbound l)

/-- A plain literal in `any` or `all` is marked when it is written. -/
theorem compile_quantified_literal (q : Quantifier) (l : Literal) :
    compile [.quantified q (.literal l)] = compile [l.arg.quantifiedBy (some q)] := by
  rw [compile_singleton, compile_singleton, Term.quantifiedBy, Term.write_quantified,
    Term.write_quantified, Term.arg, l.arg_arg]

end Written

theorem Literal.compile_wrapAll_bound {l : Literal} {v : Value} (classified : l.arg = .bound v)
    {ws : List Wrapper} (binds : Binds ws) :
    compile [(Term.literal l).wrapAll ws] =
      ⟨inLayer (firstQuantifier ws) (placeholder 1), [v]⟩ := by
  rw [l.wrapAll_eq]
  cases ws with
  | nil => exact absurd binds binds_nil
  | cons w rest =>
    cases w with
    | arg => rw [core, classified, compile_bound]
    | notArg => exact absurd binds (not_binds_mark rfl (by decide) rest)
    | raw => exact absurd binds (not_binds_mark rfl (by decide) rest)
    | quantify q =>
      rw [core, if_neg ((binds_quantify_iff q rest).mp binds), firstQuantifier_quantify,
        Term.quantifiedBy, compile_quantified_literal, classified, compile_bound]

theorem Literal.compile_wrapAll_unbound {l : Literal} {ws : List Wrapper}
    (unbound : l = .null ∨ ¬ Binds ws) :
    compile [(Term.literal l).wrapAll ws] = ⟨inLayer (firstQuantifier ws) l.render, []⟩ := by
  rw [l.wrapAll_eq]
  cases ws with
  | nil => exact compile_singleton (.literal l)
  | cons w rest =>
    cases w with
    | arg =>
      obtain rfl := unbound.resolve_right (absurd (binds_arg rest))
      exact compile_unbound _ .null
    | notArg => exact compile_unbound _ l
    | raw => exact compile_unbound _ l
    | quantify q =>
      rw [core]
      by_cases raw : .raw ∈ rest
      · rw [if_pos raw]
        exact compile_unbound _ l
      -- the wrappers bind, so it is null, which has no value
      · obtain rfl := unbound.resolve_right (absurd ((binds_quantify_iff q rest).mpr raw))
        rw [if_neg raw, firstQuantifier_quantify, Term.quantifiedBy, compile_quantified_literal]
        exact compile_unbound _ .null

/-- A wrapper that is applied twice is applied once, nothing that was wrapped is marked as
an argument any more, and `any` and `all` leave each other and the default as they are.
A literal keeps at most one `any` or `all` of those it is wrapped in, the first, and is
bound, as the one argument, exactly where it is not null and the wrappers bind; otherwise
it stands in the text as it is. -/
theorem wrapping_settles :
    (∀ (w : Wrapper) (t : Term), w.apply (w.apply t) = w.apply t ∧
      (w.apply t).arg = w.apply t) ∧
    (∀ (q r : Quantifier) (payload : Term),
      (Term.quantified r payload).quantify q = .quantified r payload ∧
        Term.default.quantify q = .default) ∧
    ∀ (ws : List Wrapper) (l : Literal),
      ((Term.literal l).wrapAll ws).layers = (firstQuantifier ws).toList ∧
      (l ≠ .null → Binds ws → ∃ v, l.payloadPiece = .slot v ∧
        compile [(Term.literal l).wrapAll ws] =
          ⟨inLayer (firstQuantifier ws) (placeholder 1), [v]⟩) ∧
      (l = .null ∨ ¬ Binds ws →
        compile [(Term.literal l).wrapAll ws] =
          ⟨inLayer (firstQuantifier ws) l.render, []⟩) := by
  refine ⟨fun w t => ⟨w.apply_apply t, w.arg_apply t⟩, fun q r payload => ⟨rfl, rfl⟩,
    fun ws l => ⟨?_, fun notNull binds => ?_, fun unbound => ?_⟩⟩
  · rw [l.wrapAll_eq, Term.layers_quantifiedBy (l.layers_core ws)]
  · obtain ⟨v, classified, slot⟩ := l.exists_slot notNull
    exact ⟨v, slot, l.compile_wrapAll_bound classified binds⟩
  · exact l.compile_wrapAll_unbound unbound

/-- Once in `any`, a path is bound unless raw comes, and no mark can prevent that. -/
theorem wrapping_settles_path :
    let path : Literal := .text "path"
    let late : List Wrapper := [.quantify .any, .notArg, .quantify .all, .arg]
    let raw : List Wrapper := [.quantify .any, .arg, .raw, .quantify .any]
    Binds late ∧ ¬ Binds raw ∧
      compile [(Term.literal path).wrapAll late] = ⟨"any($1)", [.text "path"]⟩ ∧
      compile [(Term.literal path).wrapAll raw] = ⟨"any(path)", []⟩ := by
  intro path late raw
  have binds : Binds late := (binds_quantify_iff .any _).mpr (by decide)
  have unbound : ¬ Binds raw := mt (binds_quantify_iff .any _).mp (by decide)
  obtain ⟨v, slot, written⟩ := (wrapping_settles.2.2 late path).2.1 (by decide) binds
  cases slot
  exact ⟨binds, unbound, written, (wrapping_settles.2.2 raw path).2.2 (.inr unbound)⟩

end BoundSql
