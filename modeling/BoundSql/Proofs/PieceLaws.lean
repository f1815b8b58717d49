import BoundSql.Proofs.BlankTerms

/-! # Laws of pieces

What is said of the pieces of a query holds of all of them if it holds of the texts that
are given and of slots, and stays true where pieces are put behind a separator or between
parentheses.  Whether somewhere `any` or `all` stands around nothing may be part of what is
said, since no other parentheses do. -/
set_option autoImplicit false
namespace BoundSql

mutual

/-- Somewhere in the term `any` or `all` stands around nothing.  A plain literal directly
inside of them is bound, or null. -/
def Term.isHollow : Term → Bool
  | .quantified _ (.literal _) => false
  | .quantified _ payload => payload.isBlank || payload.isHollow
  | .group _ items | .paren _ _ items | .nested items => Term.anyHollow items
  | .literal _ | .unbound _ | .bound _ | .default => false

def Term.anyHollow : List Term → Bool
  | [] => false
  | t :: rest => t.isHollow || Term.anyHollow rest

end

structure Wording where
  literal : Literal → Bool
  separator : String → Bool
  lead : String → Bool

mutual

/-- Every literal that is written, every separator and every leading word is one of the
wording.  A literal directly inside `any` or `all` is bound, or null. -/
def Term.keepsTo (w : Wording) : Term → Bool
  | .literal l | .unbound l => w.literal l
  | .bound _ | .default => true
  | .quantified _ (.literal _) => true
  | .quantified _ payload => payload.keepsTo w
  | .group separator items => w.separator separator && Term.keepTo w items
  | .paren lead separator items =>
    w.lead lead && w.separator separator && Term.keepTo w items
  | .nested items => Term.keepTo w items

def Term.keepTo (w : Wording) : List Term → Bool
  | [] => true
  | t :: rest => t.keepsTo w && Term.keepTo w rest

end

theorem Term.keepTo_eq (w : Wording) (ts : List Term) :
    Term.keepTo w ts = ts.all (Term.keepsTo w) := by
  induction ts with
  | nil => rfl
  | cons t rest ih => rw [keepTo, ih, List.all_cons]

/-- `Holds` is said of pieces and of whether they are hollow. -/
structure PieceLaw (w : Wording) (Holds : Bool → List Piece → Prop) : Prop where
  blank : w.separator " " = true
  null : w.literal .null = true
  quantifier : ∀ q : Quantifier, w.lead q.text = true
  nil : Holds false []
  slot : ∀ v, Holds false [.slot v]
  default : Holds false [.text "default"]
  literal : ∀ {l}, w.literal l = true → Holds false [.text l.render]
  hidden : ∀ {m k pieces others}, shows pieces = false → Holds m pieces → Holds k others →
    Holds (m || k) others
  separated : ∀ {m k separator first second}, w.separator separator = true → Holds m first →
    Holds k second → Holds (m || k) (first ++ .text separator :: second)
  bracketed : ∀ {m lead inner}, w.lead lead = true → Holds m inner →
    Holds (!shows inner || m) (.text (lead ++ "(") :: inner ++ [.text ")"])

section Laws
variable {w : Wording} {Holds : Bool → List Piece → Prop} (law : PieceLaw w Holds)
include law

theorem PieceLaw.enclosed {m : Bool} {lead : String} {inner : List Piece}
    (plain : w.lead lead = true) (h : Holds m inner) : Holds m (enclosedPieces lead inner) := by
  rw [enclosedPieces]
  cases seen : shows inner with
  | false => simpa using law.hidden seen h law.nil
  | true => simpa [seen] using law.bracketed plain h

theorem PieceLaw.around {m : Bool} {inner : List Piece} (h : Holds m inner) (q : Quantifier) :
    Holds (!shows inner || m) (q.aroundPieces inner) := law.bracketed (law.quantifier q) h

/-- A classified literal is a slot, or null. -/
theorem PieceLaw.payload (l : Literal) (q : Quantifier) :
    Holds false (q.aroundPieces l.arg.pieces) := by
  have classified : shows l.arg.pieces = true ∧ Holds false l.arg.pieces := by
    rcases l.arg_eq_bound_or_null with ⟨v, bound⟩ | null
    · rw [bound]
      exact ⟨rfl, law.slot v⟩
    · rw [null]
      exact ⟨by decide, law.literal law.null⟩
  simpa [classified.1] using law.around classified.2 q

theorem PieceLaw.join {separator : String} (plain : w.separator separator = true)
    {items : List Term} (h : ∀ t ∈ items, Holds t.isHollow t.pieces) :
    Holds (Term.anyHollow items) (joinPieces separator (Term.piecesEach items)) := by
  induction items with
  | nil => exact law.nil
  | cons t rest ih =>
    rw [List.forall_mem_cons] at h
    have later := ih h.2
    rw [Term.anyHollow, Term.piecesEach]
    cases seen : shows t.pieces with
    | false =>
      rw [joinPieces_cons_hidden separator _ _ seen]
      exact law.hidden seen h.1 later
    | true =>
      by_cases last : (Term.piecesEach rest).filter shows = []
      · -- what is left out behind the last item that shows says nothing against the law
        have nothing : joinPieces separator (Term.piecesEach rest) = [] := by
          simp [joinPieces, last]
        rw [nothing] at later
        rw [joinPieces_cons_last separator _ _ seen last, Bool.or_comm]
        exact law.hidden rfl later h.1
      · rw [joinPieces_cons_more separator _ _ seen last]
        exact law.separated plain h.1 later

end Laws

theorem Term.keepsTo_quantified {w : Wording} {q : Quantifier} {payload : Term}
    (h : (Term.quantified q payload).keepsTo w = true) :
    (∃ l, payload = .literal l) ∨ (payload.arg = payload ∧ payload.keepsTo w = true ∧
      (Term.quantified q payload).isHollow = (payload.isBlank || payload.isHollow)) := by
  cases payload with
  | literal l => exact Or.inl ⟨l, rfl⟩
  | _ => exact Or.inr ⟨rfl, h, rfl⟩

mutual

/-- A law holds of the pieces of every term that keeps to the wording. -/
theorem PieceLaw.term {w : Wording} {Holds : Bool → List Piece → Prop} (law : PieceLaw w Holds)
    (t : Term) (h : t.keepsTo w = true) : Holds t.isHollow t.pieces := by
  cases t with
  | literal l => exact law.literal h
  | unbound l => exact law.literal h
  | bound v => exact law.slot v
  | quantified q payload =>
    rw [Term.pieces_quantified]
    -- a literal becomes a placeholder or null here, so its own text does not matter
    rcases Term.keepsTo_quantified h with ⟨l, rfl⟩ | ⟨kept, inside, hollow⟩
    · exact law.payload l q
    · rw [kept, hollow, ← Bool.not_not payload.isBlank, ← payload.shows_pieces]
      exact law.around (PieceLaw.term law payload inside) q
  | default => exact law.default
  | group separator items =>
    rw [Term.keepsTo, Bool.and_eq_true] at h
    exact law.join h.1 (PieceLaw.terms law items h.2)
  | paren lead separator items =>
    rw [Term.keepsTo, Bool.and_eq_true, Bool.and_eq_true] at h
    exact law.enclosed h.1.1 (law.join h.1.2 (PieceLaw.terms law items h.2))
  | nested items => exact law.join law.blank (PieceLaw.terms law items h)

theorem PieceLaw.terms {w : Wording} {Holds : Bool → List Piece → Prop} (law : PieceLaw w Holds)
    (ts : List Term) (h : Term.keepTo w ts = true) : ∀ t ∈ ts, Holds t.isHollow t.pieces := by
  cases ts with
  | nil => exact List.forall_mem_nil _
  | cons t rest =>
    rw [Term.keepTo, Bool.and_eq_true] at h
    exact List.forall_mem_cons.mpr ⟨PieceLaw.term law t h.1, PieceLaw.terms law rest h.2⟩

end

theorem PieceLaw.layOut {w : Wording} {Holds : Bool → List Piece → Prop} (law : PieceLaw w Holds)
    {ts : List Term} (h : Term.keepTo w ts = true) :
    Holds (Term.anyHollow ts) (BoundSql.layOut ts) :=
  law.join law.blank (law.terms ts h)

end BoundSql
