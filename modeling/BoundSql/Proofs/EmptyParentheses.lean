import Mathlib.Data.List.Infix
import BoundSql.Proofs.PieceLaws

/-! # Empty parentheses

Parentheses around a list are left out where nothing is written in them.  Those of `any`
and `all` always stand.  So where the texts that are given have no parentheses, a query
has an empty pair exactly where a payload of `any` or `all`, at any depth, comes to
nothing. -/
set_option autoImplicit false
namespace BoundSql

/-- An opening parenthesis right before a closing one. -/
def EmptyPair (s : List Char) : Prop := ['(', ')'] <:+: s

instance (s : List Char) : Decidable (EmptyPair s) :=
  inferInstanceAs (Decidable (['(', ')'] <:+: s))

theorem pair_prefix_cons_iff {a b : Char} (c : Char) (t : List Char) :
    [a, b] <+: c :: t ↔ a = c ∧ t.head? = some b := by
  cases t with
  | nil => simp
  | cons d t => simp [List.cons_prefix_cons, eq_comm (a := b)]

/-- Two neighbours stand in the first text, in the second one, or where they meet. -/
theorem pair_infix_append {a b : Char} (s t : List Char) :
    [a, b] <:+: s ++ t ↔
      [a, b] <:+: s ∨ [a, b] <:+: t ∨ (s.getLast? = some a ∧ t.head? = some b) := by
  induction s with
  | nil => simp
  | cons c rest ih =>
    rw [List.cons_append, List.infix_cons_iff, List.infix_cons_iff, ih, pair_prefix_cons_iff,
      pair_prefix_cons_iff]
    cases rest with
    | nil => simp [eq_comm (a := a), or_comm]
    | cons d rest =>
      simp only [List.cons_append, List.head?_cons, List.getLast?_cons_cons]
      tauto

theorem not_emptyPair_of_notMem {s : List Char} (plain : '(' ∉ s) : ¬ EmptyPair s :=
  fun pair => plain (pair.subset List.mem_cons_self)

structure Sealed (s : List Char) : Prop where
  begins : s.head? ≠ some ')'
  ends : s.getLast? ≠ some '('

theorem Sealed.of_notMem {s : List Char} (first : '(' ∉ s) (second : ')' ∉ s) : Sealed s :=
  ⟨fun h => second (List.mem_of_head? h), fun h => first (List.mem_of_getLast? h)⟩

theorem Sealed.append {s t : List Char} (h : Sealed s) (k : Sealed t) : Sealed (s ++ t) := by
  refine ⟨?_, ?_⟩
  · cases s with
    | nil => exact k.begins
    | cons c rest => exact h.begins
  · cases t with
    | nil => simpa using h.ends
    | cons c rest => simpa [List.getLast?_append] using k.ends

theorem Sealed.emptyPair_append {s : List Char} (h : Sealed s) (t : List Char) :
    EmptyPair (s ++ t) ↔ EmptyPair s ∨ EmptyPair t := by
  have apart : ¬ (s.getLast? = some '(' ∧ t.head? = some ')') := fun both => h.ends both.1
  simp only [EmptyPair, pair_infix_append, apart, or_false]

theorem emptyPair_bracketed {lead inner : List Char} (plain : '(' ∉ lead ∧ ')' ∉ lead)
    (h : Sealed inner) :
    EmptyPair (lead ++ '(' :: (inner ++ [')'])) ↔ inner = [] ∨ EmptyPair inner := by
  have outside := (Sealed.of_notMem plain.1 plain.2).emptyPair_append ('(' :: (inner ++ [')']))
  have behind := h.emptyPair_append [')']
  have closing : ¬ EmptyPair [')'] := by decide
  have meets : (inner ++ [')']).head? = some ')' ↔ inner = [] := by
    cases inner with
    | nil => simp
    | cons c rest => simpa using h.begins
  have opened : EmptyPair ('(' :: (inner ++ [')'])) ↔
      (inner ++ [')']).head? = some ')' ∨ EmptyPair (inner ++ [')']) := by
    rw [EmptyPair, List.infix_cons_iff, pair_prefix_cons_iff]
    simp [EmptyPair]
  rw [outside, opened, meets, behind]
  simp only [not_emptyPair_of_notMem plain.1, closing, or_false, false_or]

theorem sealed_bracketed {lead : List Char} (plain : '(' ∉ lead ∧ ')' ∉ lead)
    (inner : List Char) : Sealed (lead ++ '(' :: (inner ++ [')'])) := by
  have closed : lead ++ '(' :: (inner ++ [')']) = (lead ++ '(' :: inner) ++ [')'] := by simp
  refine ⟨?_, ?_⟩
  · cases lead with
    | nil => simp
    | cons c rest => exact fun h => plain.2 (Option.some.inj h ▸ List.mem_cons_self)
  · rw [closed, List.getLast?_concat]
    decide

def parenFree (s : String) : Bool := !s.toList.contains '(' && !s.toList.contains ')'

theorem parenFree_iff (s : String) :
    parenFree s = true ↔ '(' ∉ s.toList ∧ ')' ∉ s.toList := by
  simp [parenFree]

theorem mem_placeholder {n : Nat} {c : Char} (h : c ∈ (placeholder n).toList) :
    c = '$' ∨ c.isDigit = true := by
  rw [placeholder_toList, List.mem_cons] at h
  exact h.imp_right fun digit => Nat.isDigit_of_mem_toDigits (by decide) (by decide) digit

/-- Whatever number they start with, the text of the pieces can stand beside others, and
it has an empty pair exactly where they are hollow. -/
structure Encloses (hollow : Bool) (pieces : List Piece) : Prop where
  isSealed : ∀ n, Sealed (textFrom n pieces).toList
  pair_iff : ∀ n, EmptyPair (textFrom n pieces).toList ↔ hollow = true

theorem Encloses.nil : Encloses false [] := by
  refine ⟨fun n => ?_, fun n => ?_⟩
  · rw [textFrom_nil]
    exact .of_notMem (by decide) (by decide)
  · rw [textFrom_nil]
    decide

theorem Encloses.text {s : String} (plain : parenFree s = true) : Encloses false [.text s] := by
  obtain ⟨first, second⟩ := (parenFree_iff s).mp plain
  refine ⟨fun n => ?_, fun n => ?_⟩
  · simpa using Sealed.of_notMem first second
  · simpa using not_emptyPair_of_notMem first

theorem Encloses.slot (v : Value) : Encloses false [.slot v] := by
  have first (n : Nat) : '(' ∉ (placeholder n).toList := fun member =>
    absurd (mem_placeholder member) (by decide)
  have second (n : Nat) : ')' ∉ (placeholder n).toList := fun member =>
    absurd (mem_placeholder member) (by decide)
  refine ⟨fun n => ?_, fun n => ?_⟩
  · simpa using Sealed.of_notMem (first n) (second n)
  · simpa using not_emptyPair_of_notMem (first n)

theorem Encloses.append {hollow other : Bool} {first second : List Piece}
    (h : Encloses hollow first) (k : Encloses other second) :
    Encloses (hollow || other) (first ++ second) := by
  refine ⟨fun n => ?_, fun n => ?_⟩
  · rw [textFrom_append, String.toList_append]
    exact (h.isSealed n).append (k.isSealed _)
  · rw [textFrom_append, String.toList_append, (h.isSealed n).emptyPair_append, h.pair_iff,
      k.pair_iff, Bool.or_eq_true]

/-- What does not show is not hollow. -/
theorem Encloses.hollow_of_hidden {hollow : Bool} {pieces : List Piece}
    (h : Encloses hollow pieces) (hidden : shows pieces = false) : hollow = false := by
  have empty : textFrom 0 pieces = "" := (textFrom_eq_empty_iff 0 pieces).mpr hidden
  have pair := h.pair_iff 0
  rw [empty] at pair
  simpa [EmptyPair] using pair

theorem Encloses.bracketed {hollow : Bool} {inner : List Piece} {lead : String}
    (plain : parenFree lead = true) (h : Encloses hollow inner) :
    Encloses (!shows inner || hollow) (.text (lead ++ "(") :: inner ++ [.text ")"]) := by
  have text (n : Nat) : (textFrom n (.text (lead ++ "(") :: inner ++ [.text ")"])).toList =
      lead.toList ++ '(' :: ((textFrom n inner).toList ++ [')']) := by
    simp [textFrom_append]
  have free := (parenFree_iff lead).mp plain
  refine ⟨fun n => ?_, fun n => ?_⟩
  · rw [text]
    exact sealed_bracketed free _
  · have empty : (textFrom n inner).toList = [] ↔ shows inner = false := by
      rw [← textFrom_eq_empty_iff n inner, String.toList_eq_nil_iff]
    rw [text, emptyPair_bracketed free (h.isSealed n), empty, h.pair_iff, Bool.or_eq_true,
      Bool.not_eq_true']

def parenFreeWording : Wording where
  literal l := parenFree l.render
  separator := parenFree
  lead := parenFree

/-- No literal that is written, no separator and no leading word has a parenthesis. -/
def Term.areParenFree (ts : List Term) : Bool := Term.keepTo parenFreeWording ts

theorem encloses_law : PieceLaw parenFreeWording Encloses where
  blank := by decide
  null := by decide
  quantifier := by
    intro q
    cases q <;> decide
  nil := .nil
  slot := .slot
  default := .text (by decide)
  literal := .text
  hidden := by
    intro _ _ pieces others seen h k
    rwa [h.hollow_of_hidden seen, Bool.false_or]
  separated := fun plain h k => h.append ((Encloses.text plain).append k)
  bracketed := fun plain h => h.bracketed plain

/-- Where no text that is given has a parenthesis, a query has an empty pair exactly where
`any` or `all` stands around nothing, at any depth.  Lists and parentheses without a text
bring none in, whatever they hold. -/
theorem empty_pair_iff_hollow (terms : List Term) (h : Term.areParenFree terms = true) :
    EmptyPair (compile terms).sql.toList ↔ Term.anyHollow terms = true := by
  have whole : Encloses (Term.anyHollow terms) (layOut terms) := encloses_law.layOut h
  rw [compile_eq_assemble]
  exact whole.pair_iff 1

def sparseRow : List Term :=
  [.word "select", .paren "row" comma [], .parenList
    [.nested [.group comma [.word "", .paren "" " " [.nested []]]], .bound (.int4 1),
      .quantified .all (.literal (.text "")), .unbound (.text "")], .commaList [.parenList []]]

theorem empty_pair_iff_hollow_sparseRow :
    Term.areParenFree sparseRow = true ∧ (compile sparseRow).sql = "select ($1, all($2))" ∧
      ¬ EmptyPair (compile sparseRow).sql.toList := by
  have free : Term.areParenFree sparseRow = true := by decide
  have pair := empty_pair_iff_hollow sparseRow free
  exact ⟨free, by decide +kernel, fun found => absurd (pair.mp found) (by decide)⟩

/-- Around a list of nothing the parentheses of `any` are written. -/
theorem empty_pair_around_nothing :
    let terms : List Term :=
      [.word "select", .quantified .any (.commaList []), .literal (.int4 1)]
    Term.areParenFree terms = true ∧ (Term.commaList []).isBlank = true ∧
      (compile terms).sql = "select any() 1" ∧ EmptyPair (compile terms).sql.toList := by
  decide +kernel

end BoundSql
