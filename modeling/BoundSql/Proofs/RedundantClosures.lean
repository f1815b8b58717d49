import BoundSql.Proofs.BlankTerms
import BoundSql.Proofs.CompletedPredicates

/-! # Conditions in closures of their own

A condition that is the only content of a closure of the chain is written there as in any
number of such closures, whatever connectives they have: nested once.  Parentheses come
about around it only where a local clause has a chain behind it, or where several chained
conditions stand in a row, and then it is one pair. -/
set_option autoImplicit false
namespace BoundSql

/-- The program completes nothing but the calls, which stand in closures of the chain, one
inside the other; the connectives are those of the closures, from the outside. -/
inductive Wraps (calls : List ConditionCall) : List Connective → List ConditionCall → Prop
  | bare : Wraps calls [] calls
  | closure (connective : Connective) {connectives : List Connective}
    {inner : List ConditionCall} (before after : List ConditionCall)
    (idleBefore : completed before = []) (idleAfter : completed after = [])
    (h : Wraps calls connectives inner) :
    Wraps calls (connective :: connectives) (before ++ .chained connective inner :: after)

def enclosedIn (connectives : List Connective) (calls : List ConditionCall) : List ConditionCall :=
  connectives.foldr (fun connective inner => [.chained connective inner]) calls

theorem wraps_enclosedIn (connectives : List Connective) (calls : List ConditionCall) :
    Wraps calls connectives (enclosedIn connectives calls) := by
  induction connectives with
  | nil => exact .bare
  | cons connective rest ih => exact .closure connective [] [] rfl rfl ih

/-- Around a closure with nothing beside it there is a chain of this one link. -/
theorem Condition.build_closure {before inner after : List ConditionCall}
    (connective : Connective) (idleBefore : completed before = [])
    (idleAfter : completed after = []) (nonempty : (Condition.build inner).isEmpty = false) :
    ∃ mode, Condition.build (before ++ .chained connective inner :: after) =
      ⟨[], mode, [(connective, (Condition.build inner).terms true)]⟩ := by
  have link : (ConditionCall.chained connective inner).link =
      [(connective, (Condition.build inner).terms true)] := by
    rw [ConditionCall.link, nonempty]
    rfl
  obtain ⟨noEntries, noLinks⟩ := contributions_idle idleBefore
  obtain ⟨noEntriesAfter, noLinksAfter⟩ := contributions_idle idleAfter
  refine ⟨lastMode (before ++ .chained connective inner :: after), ?_⟩
  rw [Condition.build_eq, List.flatMap_append, List.flatMap_append, List.flatMap_cons,
    List.flatMap_cons, noEntries, noLinks, noEntriesAfter, noLinksAfter, link]
  rfl

section Wrapped
variable {calls program : List ConditionCall} {connectives : List Connective}

theorem Wraps.isEmpty_build (h : Wraps calls connectives program)
    (nonempty : (Condition.build calls).isEmpty = false) :
    (Condition.build program).isEmpty = false := by
  induction h with
  | bare => exact nonempty
  | closure connective before after idleBefore idleAfter _ ih =>
    obtain ⟨mode, built⟩ := Condition.build_closure connective idleBefore idleAfter ih
    rw [built]
    rfl

/-- In one closure or more a condition is written as it is inside another one, whether the
whole stands inside another one or not. -/
theorem Wraps.terms_build (h : Wraps calls connectives program)
    (nonempty : (Condition.build calls).isEmpty = false) (around : connectives ≠ [])
    (nested : Bool) :
    (Condition.build program).terms nested = (Condition.build calls).terms true := by
  induction h generalizing nested with
  | bare => exact absurd rfl around
  | @closure connective connectives inner before after idleBefore idleAfter h ih =>
    obtain ⟨mode, built⟩ :=
      Condition.build_closure connective idleBefore idleAfter (h.isEmpty_build nonempty)
    have collapsed : (Condition.build (before ++ .chained connective inner :: after)).terms nested =
        (Condition.build inner).terms true := by
      rw [built]
      rfl
    rw [collapsed]
    cases h with
    | bare => rfl
    | closure => exact ih (by simp) true

end Wrapped

/-- A local clause with a chain behind it, or several chained conditions: parts that only
parentheses hold together. -/
def Condition.IsCompound (c : Condition) : Prop :=
  c.predicates ≠ [] ∧ c.chain ≠ [] ∨ 2 ≤ c.chain.length

/-- A compound condition is a term and a chain behind it, in parentheses where it is nested. -/
theorem Condition.exists_parts {c : Condition} (compound : c.IsCompound) :
    ∃ first link links, ∀ nested,
      c.terms nested = wrapped nested (first :: chainTerms (link :: links)) := by
  obtain ⟨predicates, mode, chain⟩ := c
  cases predicates with
  | cons t ts =>
    cases chain with
    | nil => simp [IsCompound] at compound
    | cons link links =>
      refine ⟨.paren "" mode.separator (t :: ts), link, links, fun nested => ?_⟩
      cases nested <;> rfl
  | nil =>
    cases chain with
    | nil => simp [IsCompound] at compound
    | cons first links =>
      cases links with
      | nil => simp [IsCompound] at compound
      | cons link links => exact ⟨.nested first.2, link, links, fun _ => rfl⟩

theorem Condition.terms_nested_of_compound {c : Condition} (compound : c.IsCompound) :
    c.terms true = [.paren "" " " (c.terms false)] := by
  obtain ⟨first, link, links, parts⟩ := Condition.exists_parts compound
  rw [parts true, parts false]
  rfl

theorem Condition.shows_of_compound {c : Condition} (compound : c.IsCompound) :
    shows (layOut (c.terms false)) = true := by
  have visible (k : Connective) : (Term.word k.text).isBlank = false := by cases k <;> rfl
  obtain ⟨first, link, links, parts⟩ := Condition.exists_parts compound
  rw [parts false, shows_layOut]
  simp [wrapped, chainTerms, Term.areBlank, visible]

theorem Condition.terms_nested_of_simple {c : Condition} (simple : ¬ c.IsCompound) :
    c.terms true = c.terms false := by
  obtain ⟨predicates, mode, chain⟩ := c
  cases predicates with
  | cons t ts =>
    cases chain with
    | nil => rfl
    | cons l ls => simp [IsCompound] at simple
  | nil =>
    cases chain with
    | nil => rfl
    | cons l ls =>
      cases ls with
      | nil => rfl
      | cons _ _ => simp [IsCompound] at simple

theorem compile_parenthesized {terms : List Term} (seen : shows (layOut terms) = true) :
    compile [.paren "" " " terms] =
      ⟨"(" ++ (compile terms).sql ++ ")", (compile terms).params⟩ := by
  have pieces : layOut [.paren "" " " terms] = .text "(" :: layOut terms ++ [.text ")"] := by
    have one : (Term.paren "" " " terms).pieces = .text "(" :: layOut terms ++ [.text ")"] :=
      if_pos seen
    rw [layOut, Term.piecesEach, Term.piecesEach, one]
    exact joinPieces_single " " _ (by simp [shows, Piece.shows])
  rw [compile_eq_assemble, compile_eq_assemble, pieces, assemble, assemble]
  simp [textFrom_append, String.append_assoc]

def filledClosures (calls : List ConditionCall) : List ConditionCall :=
  calls.filter fun call => !call.linked.isEmpty

theorem Condition.predicates_build_eq_nil_iff (calls : List ConditionCall) :
    (Condition.build calls).predicates = [] ↔ calls.flatMap ConditionCall.own = [] := by
  rw [build_eq, List.flatMap_eq_nil_iff, List.flatMap_eq_nil_iff]
  exact forall₂_congr fun call _ => call.entry_eq_nil_iff

theorem Condition.length_chain_build (calls : List ConditionCall) :
    (Condition.build calls).chain.length = (filledClosures calls).length := by
  have chain : (Condition.build calls).chain = calls.flatMap ConditionCall.link := by rw [build_eq]
  rw [chain, filledClosures]
  clear chain
  induction calls with
  | nil => rfl
  | cons call rest ih =>
    have iff := call.link_eq_nil_iff
    have one : call.link.length ≤ 1 := by
      cases call with
      | chained connective inner => rw [ConditionCall.link]; split <;> simp
      | _ => exact Nat.zero_le 1
    rw [List.flatMap_cons, List.length_append]
    by_cases unlinked : call.linked = []
    · rw [List.filter_cons_of_neg (by simp [unlinked]), iff.mpr unlinked, List.length_nil,
        Nat.zero_add]
      exact ih
    · have positive : 0 < call.link.length := List.length_pos_iff.mpr (mt iff.mp unlinked)
      rw [List.filter_cons_of_pos (by simpa using unlinked), List.length_cons]
      omega

/-- A condition in which something is completed, alone in closures of the chain, gives the
same query as in a single closure, however many they are, whatever their connectives and
wherever the whole stands.  It is the query that the condition gives without them where it
has a local clause only, or one chained condition only in which something is completed.
With a chain behind a local clause, and with two such chained conditions or more, it is
the text of that query in one pair of parentheses. -/
theorem redundant_closures {calls program : List ConditionCall} {connectives : List Connective}
    (nonempty : (Condition.build calls).isEmpty = false) (h : Wraps calls connectives program)
    (around : connectives ≠ []) (nested : Bool) :
    let wrapped := compile ((Condition.build program).terms nested)
    let bare := compile ((Condition.build calls).terms false)
    let entries := calls.flatMap ConditionCall.own
    let closures := filledClosures calls
    (∀ connective, wrapped = compile ((Condition.build [.chained connective calls]).terms false)) ∧
      (closures = [] ∨ entries = [] ∧ closures.length = 1 → wrapped = bare) ∧
      (entries ≠ [] ∧ closures ≠ [] ∨ 2 ≤ closures.length →
        wrapped = ⟨"(" ++ bare.sql ++ ")", bare.params⟩) := by
  intro wrapped bare entries closures
  have inside : wrapped = compile ((Condition.build calls).terms true) :=
    congrArg compile (h.terms_build nonempty around nested)
  have clause : (Condition.build calls).predicates = [] ↔ entries = [] :=
    Condition.predicates_build_eq_nil_iff calls
  have count : (Condition.build calls).chain.length = closures.length :=
    Condition.length_chain_build calls
  have chain : (Condition.build calls).chain = [] ↔ closures = [] := by
    rw [← List.length_eq_zero_iff, count, List.length_eq_zero_iff]
  have compound : (Condition.build calls).IsCompound ↔
      entries ≠ [] ∧ closures ≠ [] ∨ 2 ≤ closures.length := by
    rw [Condition.IsCompound, count, Ne, clause, Ne, chain]
  refine ⟨fun connective => ?_, fun simple => ?_, fun parts => ?_⟩
  · have once := (wraps_enclosedIn [connective] calls).terms_build nonempty (by simp) false
    exact inside.trans (congrArg compile once.symm)
  · have whole : ¬ (Condition.build calls).IsCompound := by
      rw [compound]
      rintro (⟨clause, chain⟩ | several)
      · rcases simple with noChain | ⟨noClause, -⟩
        · exact chain noChain
        · exact clause noClause
      · rcases simple with noChain | ⟨-, one⟩
        · simp [noChain] at several
        · omega
    rw [inside, Condition.terms_nested_of_simple whole]
  · have apart := compound.mpr parts
    rw [inside, Condition.terms_nested_of_compound apart,
      compile_parenthesized (Condition.shows_of_compound apart)]

example : (compile ((Condition.build [.chained .and [.mode .or,
      .chained .or [.mode .or, .rawText "a = 2", .rawText "a = 3"]]]).terms false)).sql =
    "(a = 2 or a = 3)" := by decide +kernel

def adultOrGuest : List ConditionCall :=
  [.compare (.word "age") .ge (.literal (.int4 18)), .chained .and [.mode .or],
    .chained .or [.compare (.word "role") .eq (.literal (.text "guest"))]]

theorem redundant_closures_adultOrGuest :
    let program : List ConditionCall :=
      [.mode .or, .chained .or [.not [], .chained .and [.chained .or adultOrGuest],
        .stepwise (.field (.word "name")) .unfinished]]
    Wraps adultOrGuest [.or, .and, .or] program ∧
      (Condition.build adultOrGuest).isEmpty = false ∧
      compile ((Condition.build program).terms false) =
        compile ((Condition.build [.chained .and adultOrGuest]).terms false) ∧
      (compile ((Condition.build adultOrGuest).terms false)).sql =
        "(age >= $1) or (role = $2)" ∧
      (compile ((Condition.build program).terms false)).sql =
        "((age >= $1) or (role = $2))" := by
  intro program
  have nonempty : (Condition.build adultOrGuest).isEmpty = false := rfl
  have wraps : Wraps adultOrGuest [.or, .and, .or] program :=
    .closure .or [.mode .or] [] rfl rfl
      (.closure .and [.not []] [.stepwise (.field (.word "name")) .unfinished] rfl rfl
        (wraps_enclosedIn [.or] adultOrGuest))
  obtain ⟨once, -, parts⟩ := redundant_closures nonempty wraps (by simp) false
  have bare : (compile ((Condition.build adultOrGuest).terms false)).sql =
      "(age >= $1) or (role = $2)" := by decide +kernel
  have apart := parts (Or.inl ⟨List.cons_ne_nil _ _, by decide⟩)
  refine ⟨wraps, nonempty, once .and, bare, ?_⟩
  rw [apart, bare]
  rfl

end BoundSql
