import BoundSql.Proofs.ConditionMeaning

/-! # Pieces inside other pieces

A family of pieces stands at one place of another one if the pieces around it are
the same for the whole family.  Lists and parentheses keep that, so it holds through
any number of them.  Behind `k` slots the placeholders are those that the pieces have
alone, raised by `k`. -/
set_option autoImplicit false
namespace BoundSql

def Fragment.raise (k : Nat) : Fragment → Fragment
  | .text s => .text s
  | .numbered v n => .numbered v (n + k)

theorem number_raise (n k : Nat) (pieces : List Piece) :
    number (n + k) pieces = (number n pieces).map (Fragment.raise k) := by
  induction pieces generalizing n with
  | nil => rfl
  | cons p rest ih =>
    cases p with
    | text s => rw [number, number, ih, List.map_cons, Fragment.raise]
    | slot v =>
      have next : n + k + 1 = n + 1 + k := by omega
      rw [number, number, next, ih, List.map_cons, Fragment.raise]

def leading (separator : String) (siblings : List (List Piece)) : List Piece :=
  (siblings.filter shows).flatMap fun s => s ++ [.text separator]

def trailing (separator : String) (siblings : List (List Piece)) : List Piece :=
  (siblings.filter shows).flatMap fun s => .text separator :: s

theorem joinPieces_filter (separator : String) (children : List (List Piece)) :
    joinPieces separator (children.filter shows) = joinPieces separator children := by
  simp [joinPieces]

theorem joinPieces_single (separator : String) (child : List Piece) (h : shows child = true) :
    joinPieces separator [child] = child := joinPieces_cons_last separator child [] h rfl

theorem joinPieces_middle (separator : String) (front back : List (List Piece))
    (child : List Piece) (h : shows child = true) :
    joinPieces separator (front ++ child :: back) =
      leading separator front ++ child ++ trailing separator back := by
  induction front with
  | nil =>
    have visible : ∀ d ∈ back.filter shows, shows d = true := by
      intro d member
      exact (List.mem_filter.mp member).2
    rw [← joinPieces_filter, List.nil_append, List.filter_cons_of_pos h,
      joinPieces_visible separator child _ h visible]
    rfl
  | cons first rest ih =>
    cases seen : shows first with
    | false =>
      rw [List.cons_append, joinPieces_cons_hidden separator first _ seen, ih]
      simp [leading, seen]
    | true =>
      have more : (rest ++ child :: back).filter shows ≠ [] := by simp [h]
      rw [List.cons_append, joinPieces_cons_more separator first _ seen more, ih]
      simp [leading, seen]

theorem shows_append (first second : List Piece) :
    shows (first ++ second) = (shows first || shows second) := List.any_append

theorem shows_joinPieces_any (separator : String) (children : List (List Piece)) :
    shows (joinPieces separator children) = children.any shows := by
  induction children with
  | nil => rfl
  | cons c rest ih =>
    cases seen : shows c with
    | false =>
      rw [joinPieces_cons_hidden separator c rest seen, ih, List.any_cons, seen, Bool.false_or]
    | true =>
      have whole := joinPieces_middle separator [] rest c seen
      rw [List.nil_append] at whole
      rw [whole, shows_append, shows_append, seen, List.any_cons, seen]
      simp

theorem shows_enclosedPieces (lead : String) (inner : List Piece) :
    shows (enclosedPieces lead inner) = shows inner := by
  rw [enclosedPieces]
  cases seen : shows inner with
  | false => rfl
  | true => simp [shows, Piece.shows]

section Families
variable {H : Type} {inner between outer : H → List Piece}

/-- Where the inner pieces show, they stand in the outer ones, always between the same
pieces. -/
def Relocates (inner outer : H → List Piece) : Prop :=
  ∃ before after, ∀ x, shows (inner x) = true → outer x = before ++ inner x ++ after

theorem Relocates.refl (inner : H → List Piece) : Relocates inner inner :=
  ⟨[], [], fun x _ => (List.append_nil (inner x)).symm⟩

theorem Relocates.trans (h : Relocates inner between) (k : Relocates between outer) :
    Relocates inner outer := by
  obtain ⟨before, after, within⟩ := h
  obtain ⟨front, back, around⟩ := k
  refine ⟨front ++ before, after ++ back, ?_⟩
  intro x seen
  have visible : shows (between x) = true := by
    rw [within x seen, shows_append, shows_append, seen]
    simp
  rw [around x visible, within x seen]
  simp

theorem Relocates.enclosed (lead : String) (inner : H → List Piece) :
    Relocates inner fun x => enclosedPieces lead (inner x) := by
  refine ⟨[.text (lead ++ "(")], [.text ")"], ?_⟩
  intro x seen
  exact if_pos seen

theorem Relocates.joined (separator : String) (front back : List (List Piece))
    (inner : H → List Piece) :
    Relocates inner fun x => joinPieces separator (front ++ inner x :: back) :=
  ⟨leading separator front, trailing separator back, fun x seen =>
    joinPieces_middle separator front back (inner x) seen⟩

/-- The members of a family stand at one place of lists that are otherwise the same. -/
def Carried {α : Type} (one : H → α) (all : H → List α) : Prop :=
  ∃ front back, ∀ x, all x = front ++ one x :: back

section Lists
variable {α β : Type} {one : H → α} {all : H → List α}

theorem Carried.middle (front back : List α) (one : H → α) :
    Carried one fun x => front ++ one x :: back := ⟨front, back, fun _ => rfl⟩

theorem Carried.head (back : List α) (one : H → α) : Carried one fun x => one x :: back :=
  ⟨[], back, fun _ => rfl⟩

theorem Carried.within (h : Carried one all) (front back : List α) :
    Carried one fun x => front ++ all x ++ back := by
  obtain ⟨before, after, around⟩ := h
  refine ⟨front ++ before, after ++ back, ?_⟩
  intro x
  simp [around]

theorem Carried.map (h : Carried one all) (f : α → β) :
    Carried (fun x => f (one x)) fun x => (all x).map f := by
  obtain ⟨before, after, around⟩ := h
  refine ⟨before.map f, after.map f, ?_⟩
  intro x
  simp [around]

end Lists

theorem Term.piecesEach_middle (front back : List Term) (t : Term) :
    Term.piecesEach (front ++ t :: back) =
      Term.piecesEach front ++ t.pieces :: Term.piecesEach back := by
  induction front with
  | nil => rfl
  | cons first rest ih => rw [List.cons_append, Term.piecesEach, Term.piecesEach, ih]; rfl

section Terms
variable {t : H → Term} {ts : H → List Term}

theorem Carried.join (h : Carried t ts) (separator : String) :
    Relocates (fun x => (t x).pieces) fun x => joinPieces separator (Term.piecesEach (ts x)) := by
  obtain ⟨front, back, around⟩ := h
  simp only [around, Term.piecesEach_middle]
  exact .joined separator _ _ _

theorem Carried.layOut (h : Carried t ts) :
    Relocates (fun x => (t x).pieces) fun x => layOut (ts x) := h.join " "

theorem Carried.paren (h : Carried t ts) (lead separator : String) :
    Relocates (fun x => (t x).pieces) fun x => (Term.paren lead separator (ts x)).pieces := by
  simp only [Term.pieces]
  exact (h.join separator).trans (.enclosed lead _)

end Terms

end Families

end BoundSql
