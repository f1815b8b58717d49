import Mathlib.Data.List.Infix
import BoundSql.Proofs.EmptyParentheses
import BoundSql.Proofs.WrittenTimes

/-! # Balanced parentheses

A text is balanced if it has as many opening parentheses as closing ones and nowhere has
closed more than it has opened.  A scan that counts the open ones decides this, and finds
the parenthesis that closes a given one.  Compiling keeps texts balanced: separators,
leading words and literals that are balanced give a balanced query, since dropping a child
drops the whole of it, and what is put around a list is a pair. -/
set_option autoImplicit false
namespace BoundSql

structure Balanced (s : List Char) : Prop where
  even : s.count '(' = s.count ')'
  closed : ∀ p, p <+: s → p.count ')' ≤ p.count '('

/-- A text that closes what is open before it and whatever it opens. -/
def closes : Nat → List Char → Bool
  | depth, [] => depth == 0
  | depth, '(' :: rest => closes (depth + 1) rest
  | 0, ')' :: _ => false
  | depth + 1, ')' :: rest => closes depth rest
  | depth, _ :: rest => closes depth rest

def inFront (s : List Char) (split : List Char × List Char) : List Char × List Char :=
  (s ++ split.1, split.2)

/-- Splits a text at the parenthesis that closes the one before it.  `depth` others have
been opened since. -/
def beforeClose? : Nat → List Char → Option (List Char × List Char)
  | _, [] => none
  | depth, '(' :: rest => (beforeClose? (depth + 1) rest).map (inFront ['('])
  | 0, ')' :: rest => some ([], rest)
  | depth + 1, ')' :: rest => (beforeClose? depth rest).map (inFront [')'])
  | depth, c :: rest => (beforeClose? depth rest).map (inFront [c])

theorem closes_other {c : Char} (first : c ≠ '(') (second : c ≠ ')') (depth : Nat)
    (rest : List Char) : closes depth (c :: rest) = closes depth rest := by
  conv_lhs => unfold closes
  split <;> simp_all

theorem beforeClose?_other {c : Char} (first : c ≠ '(') (second : c ≠ ')') (depth : Nat)
    (rest : List Char) :
    beforeClose? depth (c :: rest) = (beforeClose? depth rest).map (inFront [c]) := by
  conv_lhs => unfold beforeClose?
  split <;> simp_all

theorem forall_prefix_cons (P : List Char → Prop) (c : Char) (rest : List Char) :
    (∀ p, p <+: c :: rest → P p) ↔ P [] ∧ ∀ p, p <+: rest → P (c :: p) := by
  simp only [List.prefix_cons_iff, forall_eq_or_imp]
  exact and_congr_right fun _ =>
    ⟨fun h p k => h _ ⟨p, rfl, k⟩, fun h p ⟨q, split, k⟩ => split ▸ h q k⟩

theorem closes_iff (depth : Nat) (s : List Char) :
    closes depth s = true ↔
      depth + s.count '(' = s.count ')' ∧ ∀ p, p <+: s → p.count ')' ≤ depth + p.count '(' := by
  induction s generalizing depth with
  | nil => simp [closes]
  | cons c rest ih =>
    rw [forall_prefix_cons]
    by_cases first : c = '('
    · subst first
      simp [closes, ih, Nat.add_assoc, Nat.add_comm 1]
    · by_cases second : c = ')'
      · subst second
        cases depth with
        | zero =>
          -- the closing parenthesis alone is a prefix that closes too much
          have bad : ∀ h : ∀ p, p <+: rest → (')' :: p).count ')' ≤ 0 + (')' :: p).count '(',
              False := fun h => by simpa using h [] List.nil_prefix
          simp only [closes, Bool.false_eq_true, false_iff]
          exact fun both => bad both.2.2
        | succ depth =>
          simp [closes, ih, Nat.add_right_comm]
      · simp [closes_other first second, ih, List.count_cons_of_ne, first, second]

theorem balanced_iff (s : List Char) : Balanced s ↔ closes 0 s = true := by
  simp only [closes_iff, Nat.zero_add]
  exact ⟨fun h => ⟨h.even, h.closed⟩, fun h => ⟨h.1, h.2⟩⟩

instance (s : List Char) : Decidable (Balanced s) :=
  decidable_of_iff (closes 0 s = true) (balanced_iff s).symm

/-- Behind a text that closes so much, the scan goes on with what is left open. -/
theorem closes_append {depth : Nat} {s : List Char} (h : closes depth s = true) (more : Nat)
    (t : List Char) : closes (depth + more) (s ++ t) = closes more t := by
  induction s generalizing depth with
  | nil =>
    obtain rfl : depth = 0 := by simpa [closes] using h
    rw [Nat.zero_add, List.nil_append]
  | cons c rest ih =>
    by_cases first : c = '('
    · subst first
      rw [List.cons_append, closes, Nat.add_right_comm]
      exact ih h
    · by_cases second : c = ')'
      · subst second
        cases depth with
        | zero => simp [closes] at h
        | succ depth =>
          rw [List.cons_append, Nat.add_right_comm, closes]
          exact ih h
      · rw [closes_other first second] at h
        rw [List.cons_append, closes_other first second]
        exact ih h

theorem map_inFront (first second : List Char) (split : Option (List Char × List Char)) :
    (split.map (inFront second)).map (inFront first) = split.map (inFront (first ++ second)) := by
  cases split with
  | none => rfl
  | some split => simp [inFront]

/-- The search does not stop inside a text that closes what it opens. -/
theorem beforeClose?_append {depth : Nat} {s : List Char} (h : closes depth s = true) (more : Nat)
    (t : List Char) :
    beforeClose? (depth + more) (s ++ t) = (beforeClose? more t).map (inFront s) := by
  induction s generalizing depth with
  | nil =>
    obtain rfl : depth = 0 := by simpa [closes] using h
    rw [Nat.zero_add, List.nil_append]
    exact (congrFun Option.map_id _).symm
  | cons c rest ih =>
    rw [List.cons_append]
    by_cases first : c = '('
    · subst first
      have later := ih h
      rw [Nat.add_right_comm] at later
      rw [beforeClose?, later, map_inFront]
      rfl
    · by_cases second : c = ')'
      · subst second
        cases depth with
        | zero => simp [closes] at h
        | succ depth =>
          rw [Nat.add_right_comm, beforeClose?, ih h, map_inFront]
          rfl
      · rw [closes_other first second] at h
        rw [beforeClose?_other first second, ih h, map_inFront]
        rfl

theorem Balanced.of_notMem {s : List Char} (first : '(' ∉ s) (second : ')' ∉ s) : Balanced s := by
  refine ⟨?_, fun p h => ?_⟩
  · rw [List.count_eq_zero_of_not_mem first, List.count_eq_zero_of_not_mem second]
  · rw [List.count_eq_zero_of_not_mem fun member => second (h.subset member)]
    exact Nat.zero_le _

theorem Balanced.append {s t : List Char} (h : Balanced s) (k : Balanced t) :
    Balanced (s ++ t) := by
  rw [balanced_iff] at h k ⊢
  exact (closes_append h 0 t).trans k

theorem Balanced.bracketed {lead inner : List Char} (h : Balanced lead) (k : Balanced inner) :
    Balanced (lead ++ '(' :: (inner ++ [')'])) := by
  rw [balanced_iff] at h k ⊢
  have rest : closes 1 (inner ++ [')']) = true := closes_append k 1 [')']
  exact (closes_append h 0 _).trans rest

/-- The parenthesis before a balanced text is closed right behind it. -/
theorem Balanced.beforeClose? {inner : List Char} (h : Balanced inner) (back : List Char) :
    beforeClose? 0 (inner ++ ')' :: back) = some (inner, back) := by
  have search := beforeClose?_append ((balanced_iff inner).mp h) 0 (')' :: back)
  simpa [BoundSql.beforeClose?, inFront] using search

/-- Whatever number they start with, the text of the pieces is balanced. -/
def BalancedPieces (pieces : List Piece) : Prop := ∀ n, Balanced (textFrom n pieces).toList

theorem BalancedPieces.nil : BalancedPieces [] := fun n => by
  rw [textFrom_nil]
  decide

theorem BalancedPieces.text {s : String} (h : Balanced s.toList) : BalancedPieces [.text s] :=
  fun n => by simpa using h

theorem BalancedPieces.slot (v : Value) : BalancedPieces [.slot v] := by
  intro n
  have plain {c : Char} (mark : c ≠ '$') (digit : c.isDigit = false) :
      c ∉ (placeholder n).toList := fun member =>
    (mem_placeholder member).elim mark (fun h => by rw [digit] at h; cases h)
  simpa using Balanced.of_notMem (plain (c := '(') (by decide) rfl) (plain (by decide) rfl)

theorem BalancedPieces.append {first second : List Piece} (h : BalancedPieces first)
    (k : BalancedPieces second) : BalancedPieces (first ++ second) := by
  intro n
  rw [textFrom_append, String.toList_append]
  exact (h n).append (k _)

theorem BalancedPieces.bracketed {lead : String} {inner : List Piece} (h : Balanced lead.toList)
    (k : BalancedPieces inner) : BalancedPieces (.text (lead ++ "(") :: inner ++ [.text ")"]) := by
  intro n
  have pair := h.bracketed (k n)
  simpa [textFrom_append] using pair

def Literal.isBalanced : Literal → Bool
  | .text s => closes 0 s.toList
  | _ => true

def balancedWording : Wording where
  literal := Literal.isBalanced
  separator s := closes 0 s.toList
  lead s := closes 0 s.toList

/-- Every text that is written, every separator and every leading word is balanced. -/
def Term.isBalanced (t : Term) : Bool := t.keepsTo balancedWording

def Term.areBalanced (ts : List Term) : Bool := Term.keepTo balancedWording ts

theorem Balanced.of_plain {s : String} {plain : Char → Bool}
    (h : ∀ c ∈ s.toList, plain c = true) (first : plain '(' = false) (second : plain ')' = false) :
    Balanced s.toList :=
  .of_notMem (fun member => by simp [h _ member] at first)
    (fun member => by simp [h _ member] at second)

theorem Balanced.of_numeral {s : String} (h : Decimal.IsNumeral s) : Balanced s.toList :=
  .of_plain h rfl rfl

theorem Balanced.of_times {s : String} (h : ∀ c ∈ s.toList, Calendar.isTimeChar c = true) :
    Balanced (Text.quote s).toList := by
  have mark : Balanced "'".toList := by decide
  rw [quote_times h, String.toList_append, String.toList_append]
  exact (mark.append (.of_plain h rfl rfl)).append mark

theorem Literal.balanced_render {l : Literal} (h : l.isBalanced = true) :
    Balanced l.render.toList := by
  cases l with
  | null => decide
  | bool b => cases b <;> decide
  | int2 n => exact .of_numeral (Decimal.isNumeral_intRepr n.toInt)
  | int4 n => exact .of_numeral (Decimal.isNumeral_intRepr n.toInt)
  | int8 n => exact .of_numeral (Decimal.isNumeral_intRepr n.toInt)
  | float4 x => exact .of_numeral (x.decode.isNumeral_render .plain)
  | float8 x => exact .of_numeral (x.decode.isNumeral_render .plain)
  | text s => exact (balanced_iff s.toList).mpr h
  | timestamp t => exact .of_times t.isTimeChar_of_mem_text
  | date d => exact .of_times d.isTimeChar_of_mem_text

theorem balanced_law : PieceLaw balancedWording fun _ pieces => BalancedPieces pieces where
  blank := by decide
  null := rfl
  quantifier := by
    intro q
    cases q <;> decide
  nil := .nil
  slot := .slot
  default := .text (by decide)
  literal := fun plain => .text (Literal.balanced_render plain)
  hidden := fun _ _ others => others
  separated := fun plain h k =>
    h.append ((BalancedPieces.text ((balanced_iff _).mpr plain)).append k)
  bracketed := fun plain h => h.bracketed ((balanced_iff _).mpr plain)

theorem balanced_compile {terms : List Term} (h : Term.areBalanced terms = true) :
    Balanced (compile terms).sql.toList := by
  rw [compile_eq_assemble]
  exact balanced_law.layOut h 1

end BoundSql
