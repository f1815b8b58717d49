import Mathlib.Data.List.Forall2
import BoundSql.Proofs.ConditionFormula
import BoundSql.Proofs.Phrases

/-! # Conditions keep their meaning

What a condition is written as is read as what its calls mean.  While the calls
are made, every predicate and every chained condition is a phrase that nothing
around it can take apart; the parentheses of the whole are put so that this holds
of a nested condition again. -/
set_option autoImplicit false
namespace BoundSql

open List (Forall₂)

/-! ## Rows of phrases -/

section Rows
variable {first : List Piece} {x : Formula}

theorem IsPhrase.ands {xs : List Formula} {children : List (List Piece)}
    (h : IsPhrase .conjunction first x)
    (each : Forall₂ (fun y pieces => IsPhrase .primary pieces y) xs children) :
    IsPhrase .conjunction (first ++ children.flatMap fun c => .text " and " :: c)
      (xs.foldl .and x) := by
  induction each generalizing first x with
  | nil => simpa using h
  | cons one _ ih =>
    have longer := ih (h.and one)
    simpa using longer

theorem IsPhrase.ors {xs : List Formula} {children : List (List Piece)}
    (h : IsPhrase .disjunction first x)
    (each : Forall₂ (fun y pieces => IsPhrase .primary pieces y) xs children) :
    IsPhrase .disjunction (first ++ children.flatMap fun c => .text " or " :: c)
      (xs.foldl .or x) := by
  induction each generalizing first x with
  | nil => simpa using h
  | cons one _ ih =>
    have longer := ih (h.or one.toNegation.toConjunction)
    simpa using longer

theorem IsPhrase.clause (mode : Connective) {xs : List Formula} {children : List (List Piece)}
    (h : IsPhrase .primary first x)
    (each : Forall₂ (fun y pieces => IsPhrase .primary pieces y) xs children) :
    IsPhrase .disjunction (first ++ children.flatMap fun c => .text mode.separator :: c)
      (xs.foldl mode.join x) := by
  cases mode with
  | and => exact (h.toNegation.toConjunction.ands each).toDisjunction
  | or => exact h.toNegation.toConjunction.toDisjunction.ors each

/-- A link is read as a formula where it has its connective and its pieces are a
phrase that stays together. -/
def LinkReads (k : Connective × Formula) (l : Connective × List Piece) : Prop :=
  l.1 = k.1 ∧ IsPhrase .primary l.2 k.2

def linkPieces (links : List (Connective × List Piece)) : List Piece :=
  links.flatMap fun l => .text l.1.separator :: l.2

theorem IsPhrase.sequence_behind {before : List Piece} {d : Formula}
    {ks : List (Connective × Formula)} {links : List (Connective × List Piece)}
    (earlier : IsPhrase .disjunction before d) (h : IsPhrase .conjunction first x)
    (each : Forall₂ LinkReads ks links) :
    IsPhrase .disjunction (before ++ .text " or " :: (first ++ linkPieces links))
      (.or d (sequence x ks)) := by
  induction each generalizing before d first x with
  | nil =>
    have both := earlier.or h
    simpa [linkPieces, sequence] using both
  | @cons k l _ _ one _ ih =>
    obtain ⟨_, y⟩ := k
    obtain ⟨c, second⟩ := l
    obtain ⟨rfl, phrase⟩ := one
    cases c with
    | and =>
      have longer := ih earlier (h.and phrase)
      simpa [linkPieces, sequence, Connective.separator, Connective.text] using longer
    | or =>
      -- the grammar groups a row of `or` from the left, the row itself from the right
      have longer := (ih (earlier.or h) phrase.toNegation.toConjunction).agreeing
        (Formula.or_assoc d x _)
      simpa [linkPieces, sequence, Connective.separator, Connective.text] using longer

/-- A row is read with `and` before `or`. -/
theorem IsPhrase.sequence {ks : List (Connective × Formula)}
    {links : List (Connective × List Piece)} (h : IsPhrase .conjunction first x)
    (each : Forall₂ LinkReads ks links) :
    IsPhrase .disjunction (first ++ linkPieces links) (BoundSql.sequence x ks) := by
  induction each generalizing first x with
  | nil => simpa [linkPieces, BoundSql.sequence] using h.toDisjunction
  | @cons k l _ _ one rest ih =>
    obtain ⟨_, y⟩ := k
    obtain ⟨c, second⟩ := l
    obtain ⟨rfl, phrase⟩ := one
    cases c with
    | and =>
      have longer := ih (h.and phrase)
      simpa [linkPieces, BoundSql.sequence, Connective.separator, Connective.text] using longer
    | or =>
      -- from the first `or` on there is a disjunction in front of the row
      have longer := h.toDisjunction.sequence_behind phrase.toNegation.toConjunction rest
      simpa [linkPieces, BoundSql.sequence, Connective.separator, Connective.text] using longer

end Rows

/-! ## Lists of terms that show -/

theorem forall_of_forall₂ {α β : Type} {R : α → β → Prop} {p : β → Prop} {xs : List α}
    {ys : List β} (h : Forall₂ R xs ys) (each : ∀ x y, R x y → p y) : ∀ y ∈ ys, p y := by
  induction h with
  | nil =>
    intro y member
    simp at member
  | @cons x z _ _ first _ ih =>
    intro y member
    rcases List.mem_cons.mp member with head | later
    · rw [head]
      exact each x z first
    · exact ih y later

theorem joinPieces_visible (separator : String) (c : List Piece) (children : List (List Piece))
    (h : shows c = true) (all : ∀ d ∈ children, shows d = true) :
    joinPieces separator (c :: children) =
      c ++ children.flatMap fun d => .text separator :: d := by
  induction children generalizing c with
  | nil => simp [joinPieces, h]
  | cons d rest ih =>
    have seen : shows d = true := all d List.mem_cons_self
    have more : (d :: rest).filter shows ≠ [] := by simp [seen]
    have later := ih d seen fun e member => all e (List.mem_cons_of_mem d member)
    rw [joinPieces_cons_more separator c (d :: rest) h more, later]
    rfl

theorem Connective.shows_text (c : Connective) : shows [.text c.text] = true := by
  cases c <;> decide

theorem piecesEach_chainTerms (c : Connective) (inner : List Term)
    (rest : List (Connective × List Term)) :
    Term.piecesEach (chainTerms ((c, inner) :: rest)) =
      [.text c.text] :: layOut inner :: Term.piecesEach (chainTerms rest) := rfl

theorem chainTerms_visible {chain : List (Connective × List Term)}
    (all : ∀ l ∈ chain, shows (layOut l.2) = true) :
    ∀ d ∈ Term.piecesEach (chainTerms chain), shows d = true := by
  induction chain with
  | nil =>
    intro d member
    simp [chainTerms, Term.piecesEach] at member
  | cons l rest ih =>
    obtain ⟨c, inner⟩ := l
    intro d member
    rw [piecesEach_chainTerms, List.mem_cons, List.mem_cons] at member
    rcases member with word | nested | later
    · rw [word]
      exact c.shows_text
    · rw [nested]
      exact all (c, inner) List.mem_cons_self
    · exact ih (fun l member => all l (List.mem_cons_of_mem _ member)) d later

/-- The blanks around a connective may count as parts of it. -/
theorem sameText_chain (chain : List (Connective × List Term)) :
    SameText (linkPieces (chain.map fun l => (l.1, layOut l.2)))
      ((Term.piecesEach (chainTerms chain)).flatMap fun d => .text " " :: d) := by
  induction chain with
  | nil => exact .refl _
  | cons l rest ih =>
    obtain ⟨c, inner⟩ := l
    have before := SameText.merge (" " ++ c.text) " " (layOut inner)
    have behind := (SameText.merge " " c.text [.text " "]).append (.refl (layOut inner))
    have link := (before.trans behind).append ih
    rw [piecesEach_chainTerms]
    simpa [linkPieces, Connective.separator] using link

/-! ## Conditions under way -/

def Spelt (x : Formula) (pieces : List Piece) : Prop :=
  (∀ t ∈ x.atoms, shows t.pieces = true) → IsPhrase .primary pieces x

def LinkSpelt (k : Connective × Formula) (l : Connective × List Term) : Prop :=
  l.1 = k.1 ∧ Spelt k.2 (layOut l.2)

/-- The predicates spell the entries, and the chain spells the links. -/
structure Condition.Spells (c : Condition) (entries : List Formula)
    (links : List (Connective × Formula)) : Prop where
  predicates : Forall₂ (fun x t => Spelt x t.pieces) entries c.predicates
  chain : Forall₂ LinkSpelt links c.chain

theorem Condition.Spells.empty : Condition.Spells {} [] [] := ⟨.nil, .nil⟩

theorem Condition.Spells.isEmpty {c : Condition} {entries : List Formula}
    {links : List (Connective × Formula)} (h : c.Spells entries links) :
    c.isEmpty = (outline c.mode entries links).isNone := by
  obtain ⟨predicates, mode, chain⟩ := c
  obtain ⟨hp, hc⟩ := h
  cases hp with
  | cons _ _ => rfl
  | nil =>
    cases hc with
    | cons _ _ => rfl
    | nil => rfl

/-- Where a condition of a kind can stand: a nested one anywhere. -/
def Level.ofCondition (nested : Bool) : Level := if nested then .primary else .disjunction

theorem Reads.ofCondition {nested : Bool} {ts : List Token} {x : Formula}
    (h : Reads (.ofCondition nested) ts x) : Reads .disjunction ts x := by
  cases nested with
  | false => exact h
  | true => exact .conjunction (.negation (.primary h))

theorem IsPhrase.layOut_singleton {level : Level} {t : Term} {x : Formula}
    (h : IsPhrase level t.pieces x) : IsPhrase level (layOut [t]) x := by
  have alone : layOut [t] = t.pieces := joinPieces_cons_last " " t.pieces [] h.shows rfl
  rw [alone]
  exact h

theorem IsPhrase.paren {separator : String} {items : List Term} {x : Formula}
    (h : IsPhrase .disjunction (joinPieces separator (Term.piecesEach items)) x) :
    IsPhrase .primary (Term.paren "" separator items).pieces x := by
  rw [Term.pieces, enclosedPieces, if_pos h.shows]
  exact h.parens

theorem IsPhrase.wrapped {terms : List Term} {x : Formula}
    (h : IsPhrase .disjunction (layOut terms) x) (nested : Bool) :
    IsPhrase (.ofCondition nested) (layOut (BoundSql.wrapped nested terms)) x := by
  cases nested with
  | false => exact h
  | true => exact h.paren.layOut_singleton

theorem IsPhrase.ofPrimary {pieces : List Piece} {x : Formula} (h : IsPhrase .primary pieces x)
    (nested : Bool) : IsPhrase (.ofCondition nested) pieces x := by
  cases nested with
  | false => exact h.toNegation.toConjunction.toDisjunction
  | true => exact h

/-- A link of a condition, once its atoms are known to show. -/
def LinkPhrase (k : Connective × Formula) (l : Connective × List Term) : Prop :=
  l.1 = k.1 ∧ IsPhrase .primary (layOut l.2) k.2

/-- A term with a chain behind it. -/
theorem IsPhrase.chained {t : Term} {x : Formula} {ks : List (Connective × Formula)}
    {chain : List (Connective × List Term)} (h : IsPhrase .primary t.pieces x)
    (each : Forall₂ LinkPhrase ks chain) :
    IsPhrase .disjunction (layOut (t :: chainTerms chain)) (BoundSql.sequence x ks) := by
  have links : Forall₂ LinkReads ks (chain.map fun l => (l.1, layOut l.2)) := by
    rw [List.forall₂_map_right_iff]
    exact each
  have row := h.toNegation.toConjunction.sequence links
  have visible := chainTerms_visible (forall_of_forall₂ each fun _ _ one => one.2.shows)
  have whole : layOut (t :: chainTerms chain) =
      t.pieces ++ (Term.piecesEach (chainTerms chain)).flatMap fun d => .text " " :: d :=
    joinPieces_visible " " t.pieces _ h.shows visible
  rw [whole]
  exact row.congr ((SameText.refl t.pieces).append (sameText_chain chain))

theorem piecesEach_phrases {xs : List Formula} {ts : List Term}
    (each : Forall₂ (fun y t => IsPhrase .primary t.pieces y) xs ts) :
    Forall₂ (fun y pieces => IsPhrase .primary pieces y) xs (Term.piecesEach ts) := by
  induction each with
  | nil => exact .nil
  | cons one _ ih => exact .cons one ih

theorem IsPhrase.ownClause (mode : Connective) {x : Formula} {xs : List Formula} {t : Term}
    {ts : List Term} (h : IsPhrase .primary t.pieces x)
    (each : Forall₂ (fun y u => IsPhrase .primary u.pieces y) xs ts) :
    IsPhrase .primary (Term.paren "" mode.separator (t :: ts)).pieces (xs.foldl mode.join x) := by
  have children := piecesEach_phrases each
  have visible := forall_of_forall₂ children fun _ _ one => one.shows
  have whole : joinPieces mode.separator (Term.piecesEach (t :: ts)) =
      t.pieces ++ (Term.piecesEach ts).flatMap fun d => .text mode.separator :: d :=
    joinPieces_visible mode.separator t.pieces _ h.shows visible
  apply IsPhrase.paren
  rw [whole]
  exact h.clause mode children

theorem Condition.terms_unchained (nested : Bool) (t : Term) (ts : List Term)
    (mode : Connective) :
    Condition.terms nested ⟨t :: ts, mode, []⟩ = [.paren "" mode.separator (t :: ts)] := by
  simp [Condition.terms, BoundSql.wrapped, chainTerms]

theorem Condition.terms_chained (nested : Bool) (t : Term) (ts : List Term) (mode : Connective)
    (l : Connective × List Term) (ls : List (Connective × List Term)) :
    Condition.terms nested ⟨t :: ts, mode, l :: ls⟩ =
      BoundSql.wrapped nested (.paren "" mode.separator (t :: ts) :: chainTerms (l :: ls)) := by
  simp [Condition.terms]

/-- The rules for parentheses put a phrase together, and one that nothing can take
apart where the condition is nested. -/
theorem Condition.Spells.terms {c : Condition} {entries : List Formula}
    {links : List (Connective × Formula)} {x : Formula} (h : c.Spells entries links)
    (meaning : outline c.mode entries links = some x)
    (visible : ∀ t ∈ x.atoms, shows t.pieces = true) (nested : Bool) :
    IsPhrase (.ofCondition nested) (layOut (c.terms nested)) x := by
  obtain ⟨predicates, mode, chain⟩ := c
  obtain ⟨hp, hc⟩ := h
  have atoms := atoms_outline meaning
  simp only at hp hc meaning
  rw [atoms] at visible
  have entriesVisible : ∀ y ∈ entries, ∀ t ∈ y.atoms, shows t.pieces = true := by
    intro y entry t member
    exact visible t (List.mem_append_left _ (List.mem_flatMap.mpr ⟨y, entry, member⟩))
  have linksVisible : ∀ k ∈ links, ∀ t ∈ k.2.atoms, shows t.pieces = true := by
    intro k link t member
    exact visible t (List.mem_append_right _ (List.mem_flatMap.mpr ⟨k, link, member⟩))
  have own : Forall₂ (fun y t => IsPhrase .primary t.pieces y) entries predicates :=
    ((List.forall₂_and_left _ _).mpr ⟨entriesVisible, hp⟩).imp fun _ _ both => both.2 both.1
  have others : Forall₂ LinkPhrase links chain :=
    ((List.forall₂_and_left _ _).mpr ⟨linksVisible, hc⟩).imp
      fun _ _ both => ⟨both.2.1, both.2.2 both.1⟩
  cases own with
  | cons first rest =>
    rw [outline, Option.some.injEq] at meaning
    have clause := IsPhrase.ownClause mode first rest
    rw [← meaning]
    cases others with
    | nil =>
      rw [Condition.terms_unchained]
      exact clause.layOut_singleton.ofPrimary nested
    | cons link more =>
      rw [Condition.terms_chained]
      exact (clause.chained (.cons link more)).wrapped nested
  | nil =>
    cases others with
    | nil => simp [outline] at meaning
    | cons link more =>
      rw [outline, Option.some.injEq] at meaning
      rw [← meaning]
      cases more with
      | nil => exact link.2.ofPrimary nested
      | cons second rest =>
        have nestedPieces : IsPhrase .primary (Term.nested _).pieces _ := link.2
        exact (nestedPieces.chained (.cons second rest)).wrapped nested

/-! ## Calls -/

theorem Spelt.ofPredicate (p : Predicate) : Spelt p.formula p.term.pieces := by
  intro visible
  cases p with
  | atom t => exact .atom t (visible t List.mem_cons_self)
  | constant b => exact .constant b

theorem Spelt.negation {x : Formula} {ts : List Term} (h : Spelt x (layOut ts)) :
    Spelt (.not x) (Term.paren "" " " [.word "not", .nested ts]).pieces := by
  intro visible
  have inner : IsPhrase .primary (layOut ts) x := h visible
  have joined : joinPieces " " [[.text "not"], layOut ts] =
      .text "not" :: .text " " :: layOut ts := by
    simp [joinPieces_visible " " [.text "not"] [layOut ts] (by decide) (by simp [inner.shows])]
  apply IsPhrase.paren
  have spelt : Term.piecesEach [.word "not", .nested ts] = [[.text "not"], layOut ts] := rfl
  rw [spelt, joined]
  have whole := inner.not.congr (SameText.merge "not" " " (layOut ts))
  exact whole.toConjunction.toDisjunction

theorem ConditionCall.apply_mode (call : ConditionCall) (c : Condition) :
    (call.apply c).mode = call.chooseMode c.mode := by
  cases call with
  | not inner =>
    rw [apply, Condition.addNot]
    split <;> rfl
  | chained connective inner =>
    rw [apply, Condition.addChained]
    split <;> rfl
  | mode connective => rfl
  | _ =>
    rw [ConditionCall.apply_plain _ c rfl]
    rfl

theorem ConditionCall.applyAll_mode (calls : List ConditionCall) (c : Condition) :
    (ConditionCall.applyAll calls c).mode = calls.foldl ConditionCall.chooseMode c.mode := by
  induction calls generalizing c with
  | nil => rfl
  | cons call rest ih =>
    rw [applyAll, ih, call.apply_mode]
    rfl

theorem Condition.Spells.add {c : Condition} {entries : List Formula}
    {links : List (Connective × Formula)} (h : c.Spells entries links) (p : Option Predicate) :
    (c.add p).Spells (entries ++ (p.map Predicate.formula).toList) links := by
  refine ⟨?_, h.chain⟩
  cases p with
  | none => simpa [Condition.add] using h.predicates
  | some p => exact List.rel_append h.predicates (.cons (.ofPredicate p) .nil)

theorem Condition.Spells.addNot {c inner : Condition} {entries others : List Formula}
    {links more : List (Connective × Formula)} (h : c.Spells entries links)
    (k : inner.Spells others more) :
    (c.addNot inner).Spells (entries ++ ((outline inner.mode others more).map Formula.not).toList)
      links := by
  rw [Condition.addNot, k.isEmpty]
  cases meaning : outline inner.mode others more with
  | none => simpa using h
  | some x =>
    have nested : Spelt x (layOut (inner.terms true)) :=
      fun visible => k.terms meaning visible true
    exact ⟨List.rel_append h.predicates (.cons nested.negation .nil), h.chain⟩

theorem Condition.Spells.addChained {c inner : Condition} {entries others : List Formula}
    {links more : List (Connective × Formula)} (h : c.Spells entries links)
    (connective : Connective) (k : inner.Spells others more) :
    (c.addChained connective inner).Spells entries
      (links ++ ((outline inner.mode others more).map fun x => (connective, x)).toList) := by
  rw [Condition.addChained, k.isEmpty]
  cases meaning : outline inner.mode others more with
  | none => simpa using h
  | some x =>
    have nested : Spelt x (layOut (inner.terms true)) :=
      fun visible => k.terms meaning visible true
    exact ⟨h.predicates, List.rel_append h.chain (.cons ⟨rfl, nested⟩ .nil)⟩

mutual

/-- One call adds its entry and its link, and leaves those before it alone. -/
theorem ConditionCall.apply_spells (call : ConditionCall) {c : Condition} {entries : List Formula}
    {links : List (Connective × Formula)} (h : c.Spells entries links) :
    (call.apply c).Spells (entries ++ call.entryFormula?.toList)
      (links ++ call.linkFormula?.toList) := by
  cases call with
  | not inner =>
    have nested := ConditionCall.applyAll_spells inner .empty
    have whole := h.addNot nested
    rw [ConditionCall.applyAll_mode] at whole
    simpa [apply, entryFormula?, linkFormula?, lastMode] using whole
  | chained connective inner =>
    have nested := ConditionCall.applyAll_spells inner .empty
    have whole := h.addChained connective nested
    rw [ConditionCall.applyAll_mode] at whole
    simpa [apply, entryFormula?, linkFormula?, predicate?, lastMode] using whole
  | mode connective =>
    have kept : Condition.Spells { c with mode := connective } entries links :=
      ⟨h.predicates, h.chain⟩
    simpa [apply, entryFormula?, linkFormula?, predicate?] using kept
  | _ =>
    rw [ConditionCall.apply_plain _ c rfl]
    simpa only [linkFormula?, entryFormula?, Option.toList_none, List.append_nil] using h.add _

theorem ConditionCall.applyAll_spells (calls : List ConditionCall) {c : Condition}
    {entries : List Formula} {links : List (Connective × Formula)} (h : c.Spells entries links) :
    (ConditionCall.applyAll calls c).Spells (entries ++ ConditionCall.entries calls)
      (links ++ ConditionCall.links calls) := by
  cases calls with
  | nil => simpa [applyAll, ConditionCall.entries, ConditionCall.links] using h
  | cons call rest =>
    have later := ConditionCall.applyAll_spells rest (call.apply_spells h)
    simpa [applyAll, ConditionCall.entries, ConditionCall.links] using later

end

/-! ## Whole conditions -/

/-- The atomic predicates of a condition in the order of the text. -/
def conditionAtoms (calls : List ConditionCall) : List Term :=
  ((conditionFormula calls).map Formula.atoms).getD []

theorem shows_of_compile (t : Term) (h : (compile [t]).sql ≠ "") : shows t.pieces = true := by
  rw [compile_eq_assemble, assemble, Ne, textFrom_eq_empty_iff] at h
  cases seen : shows t.pieces with
  | true => rfl
  | false =>
    have hidden : layOut [t] = [] := joinPieces_cons_hidden " " t.pieces [] seen
    rw [hidden] at h
    exact absurd rfl h

/-- The text of a condition that is not empty is read in one way only, with every
atomic predicate as one token, and what is read holds exactly where the condition
does.  Inside another condition the text stays together. -/
theorem condition_preserves_meaning (calls : List ConditionCall) (nested : Bool)
    (nonempty : (Condition.build calls).isEmpty = false)
    (visible : ∀ t ∈ conditionAtoms calls, (compile [t]).sql ≠ "") :
    ∃ x tokens y, conditionFormula calls = some x ∧
      compile ((Condition.build calls).terms nested) = assemble (spell tokens) ∧
      tokens.filterMap Token.atom? = conditionAtoms calls ∧
      Reads (.ofCondition nested) tokens y ∧ (∀ z, Reads .disjunction tokens z ↔ z = y) ∧
      ∀ truth, y.eval truth = x.eval truth := by
  have spells : (Condition.build calls).Spells (ConditionCall.entries calls)
      (ConditionCall.links calls) := ConditionCall.applyAll_spells calls .empty
  have mode : (Condition.build calls).mode = lastMode calls := ConditionCall.applyAll_mode calls {}
  have empty := spells.isEmpty
  rw [mode, nonempty] at empty
  cases meaning : conditionFormula calls with
  | none =>
    rw [conditionFormula] at meaning
    rw [meaning] at empty
    simp at empty
  | some x =>
    have atoms : conditionAtoms calls = x.atoms := by rw [conditionAtoms, meaning]; rfl
    rw [atoms] at visible ⊢
    have outlined : outline (Condition.build calls).mode (ConditionCall.entries calls)
        (ConditionCall.links calls) = some x := by
      rw [mode]
      exact meaning
    obtain ⟨tokens, y, p⟩ :=
      spells.terms outlined (fun t member => shows_of_compile t (visible t member)) nested
    have whole : Reads .disjunction tokens y := p.reads.ofCondition
    refine ⟨x, tokens, y, rfl, ?_, ?_, p.reads, ?_, p.agrees.value⟩
    · rw [compile_eq_assemble, assemble, assemble, p.text.text, p.text.values]
    · rw [p.reads.atoms, p.agrees.atoms]
    · intro z
      constructor
      · intro other
        exact other.unique whole
      · intro equal
        rw [equal]
        exact whole

def bracketedConditions : List ConditionCall :=
  [.chained .or [.rawText "b", .mode .or, .rawText "c", .chained .and [.not [.rawText "d"]]],
    .rawText "a",
    .chained .and [.chained .and [.notIn (.word "x") []], .chained .or [.rawText "e"]],
    .mode .or, .not [.isNull (.word "f")]]

theorem condition_preserves_meaning_bracketed :
    ∃ tokens y, compile ((Condition.build bracketedConditions).terms false) =
        assemble (spell tokens) ∧ Reads .disjunction tokens y ∧
      ∀ truth, y.eval truth =
        (truth (.word "a") || !truth (.group " " [.word "f", .word "is null"])
          || ((truth (.word "b") || truth (.word "c")) && !truth (.word "d"))
            && (true || truth (.word "e"))) := by
  obtain ⟨x, tokens, y, meaning, text, _, reads, _, value⟩ :=
    condition_preserves_meaning bracketedConditions false rfl (by decide)
  refine ⟨tokens, y, text, reads, ?_⟩
  intro truth
  rw [value truth]
  cases meaning
  rfl

end BoundSql
