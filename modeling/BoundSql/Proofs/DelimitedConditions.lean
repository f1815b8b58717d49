import BoundSql.Proofs.BalancedPrograms
import BoundSql.Proofs.CompletedPredicates
import BoundSql.Proofs.ConditionMeaning

/-! # Nested conditions keep their parentheses

A condition inside another one begins with a parenthesis that is closed by its last
character.  Where that pair comes from depends on what is in the condition: the predicates
stand between parentheses, a chain behind them or several chained conditions get a pair
around the whole, and a single chained condition has the pair that it has itself.  So the
invariant is about the chain: every condition in it is delimited in this way, and every
predicate shows. -/
set_option autoImplicit false
namespace BoundSql

/-- Whatever number the pieces start with, their text is a pair of parentheses around a
balanced one. -/
def Delimited (pieces : List Piece) : Prop :=
  ∀ n, ∃ inside, (textFrom n pieces).toList = '(' :: (inside ++ [')']) ∧ Balanced inside

theorem Delimited.shows {pieces : List Piece} (h : Delimited pieces) :
    BoundSql.shows pieces = true := by
  obtain ⟨inside, text, -⟩ := h 1
  cases seen : BoundSql.shows pieces with
  | true => rfl
  | false =>
    rw [(textFrom_eq_empty_iff 1 pieces).mpr seen] at text
    cases text

theorem shows_paren {first : Term} (seen : shows first.pieces = true) (separator : String)
    (rest : List Term) : shows (Term.paren "" separator (first :: rest)).pieces = true := by
  simp [Term.pieces, shows_enclosedPieces, shows_joinPieces_any, Term.piecesEach, seen]

theorem Delimited.paren {separator : String} {first : Term} {rest : List Term}
    (balanced : (Term.paren "" separator (first :: rest)).isBalanced = true)
    (seen : BoundSql.shows first.pieces = true) :
    Delimited (layOut [.paren "" separator (first :: rest)]) := by
  let inner := joinPieces separator (Term.piecesEach (first :: rest))
  have visible := shows_paren seen separator rest
  have shown : BoundSql.shows inner = true := by
    rwa [Term.pieces, shows_enclosedPieces] at visible
  have inside : BalancedPieces inner := by
    rw [Term.isBalanced, Term.keepsTo, Bool.and_eq_true, Bool.and_eq_true] at balanced
    exact balanced_law.join balanced.1.2 (balanced_law.terms _ balanced.2)
  have pieces : (Term.paren "" separator (first :: rest)).pieces =
      .text "(" :: inner ++ [.text ")"] := by
    rw [Term.pieces, enclosedPieces, if_pos shown]
    rfl
  have alone : layOut [.paren "" separator (first :: rest)] =
      .text "(" :: inner ++ [.text ")"] := by
    rw [← pieces]
    exact joinPieces_single " " _ visible
  intro n
  refine ⟨(textFrom n inner).toList, ?_, inside n⟩
  rw [alone]
  simp [textFrom_append]

/-- The parenthesis at the start is closed by the last character. -/
theorem Delimited.closes_last {pieces : List Piece} (h : Delimited pieces) (n : Nat) :
    ∃ tail inside, (textFrom n pieces).toList = '(' :: tail ∧
      beforeClose? 0 tail = some (inside, []) := by
  obtain ⟨inside, text, balanced⟩ := h n
  exact ⟨inside ++ [')'], inside, text, balanced.beforeClose? []⟩

structure Condition.Delimits (c : Condition) : Prop where
  balanced : c.IsBalanced
  predicates : ∀ t ∈ c.predicates, shows t.pieces = true
  chain : ∀ link ∈ c.chain, Delimited (layOut link.2)

/-- Wherever the pair comes from, it is around the whole condition. -/
theorem Condition.Delimits.terms {c : Condition} (h : c.Delimits) (nonempty : c.isEmpty = false) :
    Delimited (layOut (c.terms true)) := by
  have balanced := h.balanced.terms true
  obtain ⟨predicates, mode, chain⟩ := c
  match predicates, chain with
  | [], [] => simp [Condition.isEmpty] at nonempty
  | [], [link] => exact h.chain link List.mem_cons_self
  | [], link :: second :: rest =>
    have shown : shows (Term.nested link.2).pieces = true :=
      (h.chain link List.mem_cons_self).shows
    exact .paren ((balancedEach_cons _ _).mp balanced).1 shown
  | t :: ts, [] =>
    have shown := h.predicates t List.mem_cons_self
    rw [Condition.terms_unchained] at balanced ⊢
    exact .paren ((balancedEach_cons _ _).mp balanced).1 shown
  | t :: ts, link :: rest =>
    have own := shows_paren (h.predicates t List.mem_cons_self) mode.separator ts
    rw [Condition.terms_chained] at balanced ⊢
    exact .paren ((balancedEach_cons _ _).mp balanced).1 own

theorem ConditionCall.shows_entry (call : ConditionCall)
    (seen : ∀ p ∈ call.own, shows p.term.pieces = true) :
    ∀ t ∈ call.entry, shows t.pieces = true := by
  have plain (known : call.own = call.predicate?.toList) :
      ∀ t ∈ (call.predicate?.map Predicate.term).toList, shows t.pieces = true := by
    rw [known] at seen
    intro t member
    obtain ⟨p, own, rfl⟩ := Option.map_eq_some_iff.mp (Option.mem_toList.mp member)
    exact seen p (Option.mem_toList.mpr own)
  cases call with
  | not inner =>
    intro t member
    rw [entry] at member
    split at member
    · cases member
    · rw [List.mem_singleton.mp member]
      exact shows_paren rfl " " _
  | _ => exact plain rfl

/-- A row of calls delimits what its links are. -/
theorem Condition.build_delimits {calls : List ConditionCall}
    (balanced : BalancedEach (ConditionCall.givenAll calls))
    (seen : ∀ p ∈ completed calls, shows p.term.pieces = true)
    (links : ∀ link ∈ calls.flatMap ConditionCall.link, Delimited (layOut link.2)) :
    (Condition.build calls).Delimits := by
  have own : ∀ p ∈ calls.flatMap ConditionCall.own, shows p.term.pieces = true := fun p member =>
    seen p ((completed_perm calls).mem_iff.mp (List.mem_append_left _ member))
  refine ⟨ConditionCall.applyAll_balanced calls .empty balanced, ?_, ?_⟩
  · rw [Condition.build_eq]
    intro t member
    obtain ⟨call, place, entry⟩ := List.mem_flatMap.mp member
    exact call.shows_entry (fun p inside => own p (List.mem_flatMap.mpr ⟨call, place, inside⟩)) t
      entry
  · rw [Condition.build_eq]
    exact links

mutual

theorem ConditionCall.delimited_link (call : ConditionCall) (balanced : BalancedEach call.given)
    (seen : ∀ p ∈ call.linked, shows p.term.pieces = true) :
    ∀ link ∈ call.link, Delimited (layOut link.2) := by
  cases call with
  | chained connective inner =>
    have links := ConditionCall.delimited_links inner balanced seen
    intro link member
    rw [ConditionCall.link] at member
    split at member
    · cases member
    · rename_i nonempty
      rw [List.mem_singleton.mp member]
      exact (Condition.build_delimits balanced seen links).terms (by simpa using nonempty)
  | _ => simp [ConditionCall.link]

theorem ConditionCall.delimited_links (calls : List ConditionCall)
    (balanced : BalancedEach (ConditionCall.givenAll calls))
    (seen : ∀ p ∈ completed calls, shows p.term.pieces = true) :
    ∀ link ∈ calls.flatMap ConditionCall.link, Delimited (layOut link.2) := by
  cases calls with
  | nil => simp
  | cons call rest =>
    rw [completed_cons] at seen
    simp only [List.mem_append, or_imp, forall_and] at seen
    obtain ⟨first, later⟩ := (balancedEach_append _ _).mp balanced
    rw [List.flatMap_cons, List.forall_mem_append]
    exact ⟨ConditionCall.delimited_link call first seen.1.2,
      ConditionCall.delimited_links rest later seen.2⟩

end

/-- A condition that is not empty is put by `and`, `or` and `not` where its text begins
with a parenthesis that its last character closes, however it was built: what it is given
is balanced and its predicates render, but nothing is asked about its shape. -/
theorem nested_condition_delimited (inner : List ConditionCall)
    (balanced : Term.areBalanced (ConditionCall.givenAll inner) = true)
    (visible : ∀ p ∈ completed inner, (compile [p.term]).sql ≠ "")
    (nonempty : (Condition.build inner).isEmpty = false) :
    ∃ ts : List Term,
      (∀ c : Condition, (ConditionCall.not inner).apply c =
        { c with predicates := c.predicates ++ [.paren "" " " [.word "not", .nested ts]] }) ∧
      (∀ (connective : Connective) (c : Condition),
        (ConditionCall.chained connective inner).apply c =
          { c with chain := c.chain ++ [(connective, ts)] }) ∧
      ∀ args : Arguments, ∃ tail inside : List Char,
        ((Term.nested ts).write args).1.toList = '(' :: tail ∧
        beforeClose? 0 tail = some (inside, []) := by
  have seen : ∀ p ∈ completed inner, shows p.term.pieces = true := fun p member =>
    shows_of_compile p.term (visible p member)
  rw [Term.areBalanced_iff] at balanced
  have links := ConditionCall.delimited_links inner balanced seen
  have delimited := (Condition.build_delimits balanced seen links).terms nonempty
  refine ⟨(Condition.build inner).terms true, ?_, ?_, ?_⟩
  · intro c
    exact if_neg (by rw [← Condition.build, nonempty]; decide)
  · intro connective c
    exact if_neg (by rw [← Condition.build, nonempty]; decide)
  · intro args
    rw [((Term.nested _).write_writes args).text]
    exact delimited.closes_last _

def collapsedChain : List ConditionCall :=
  [.mode .or, .chained .and [.chained .or [.compare (.word "f(a)") .eq (.literal (.int4 1)),
    .not [.rawText "b"], .chained .and [.isNull (.word "c")]]]]

theorem nested_condition_delimited_collapsedChain :
    ((Term.nested ((Condition.build collapsedChain).terms true)).write .empty).1 =
        "((f(a) = $1 and (not (b))) and (c is null))" ∧
      ∃ ts : List Term,
        (ConditionCall.chained .or collapsedChain).apply {} = { chain := [(.or, ts)] } ∧
        ∃ tail inside : List Char, ((Term.nested ts).write .empty).1.toList = '(' :: tail ∧
          beforeClose? 0 tail = some (inside, []) := by
  obtain ⟨ts, -, chained, text⟩ := nested_condition_delimited collapsedChain (by decide)
    (by decide +kernel) (by decide)
  exact ⟨by decide +kernel, ts, chained .or {}, text .empty⟩

end BoundSql
