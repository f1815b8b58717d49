import BoundSql.Proofs.BalancedPrograms
import BoundSql.Proofs.Substatements

/-! # Statements between parentheses of their own

A program that is given balanced terms has a balanced query, so the search for the
parenthesis that closes a given one ends where it should.  The parentheses around a select
or a union inside the program are closed right behind it: nothing in it closes them, and
it leaves nothing open.  Only what an insert takes its rows from has none. -/
set_option autoImplicit false
namespace BoundSql

def Builder.given : (b : Builder) → b.Call → List Term
  | .condition => ConditionCall.given
  | .join => JoinCall.given
  | .distinct => fun columns => columns
  | .select => SelectCall.given
  | .union => UnionCall.given
  | .assignment => AssignmentCall.given
  | .update => UpdateCall.given
  | .conflict => ConflictCall.given
  | .insert => InsertCall.given
  | .delete => DeleteCall.given

def Builder.givenAll : (b : Builder) → List b.Call → List Term
  | .condition => ConditionCall.givenAll
  | .join => JoinCall.givenAll
  | .distinct => List.flatten
  | .select => SelectCall.givenAll
  | .union => UnionCall.givenAll
  | .assignment => List.flatMap AssignmentCall.given
  | .update => List.flatMap UpdateCall.given
  | .conflict => List.flatMap ConflictCall.given
  | .insert => List.flatMap InsertCall.given
  | .delete => List.flatMap DeleteCall.given

theorem Builder.givenAll_cons (b : Builder) (call : b.Call) (rest : List b.Call) :
    b.givenAll (call :: rest) = b.given call ++ b.givenAll rest := by
  cases b <;> rfl

theorem Builder.subset_middle (b : Builder) {ts : List Term} (before after : List b.Call)
    {call : b.Call} (h : ts ⊆ b.given call) : ts ⊆ b.givenAll (before ++ call :: after) := by
  induction before with
  | nil =>
    rw [List.nil_append, givenAll_cons]
    exact List.subset_append_of_subset_left _ h
  | cons first rest ih =>
    rw [List.cons_append, givenAll_cons]
    exact List.subset_append_of_subset_right _ ih

section Embedding
variable {H : Type} {s : Setting} {embedded : H → Program}

def Host.given (x : H) : Host H → List Term
  | .condition calls => ConditionCall.givenAll (calls x)
  | .ties calls => JoinCall.givenAll (calls x)
  | .values calls => (calls x).flatMap AssignmentCall.given
  | .conflict target calls => target.terms ++ (calls x).flatMap ConflictCall.given
  | .program p => (p x).given

/-- What an embedded statement is given its host is given. -/
theorem Embeds.given_subset {host : Host H} (place : Embeds embedded s host) (x : H) :
    (embedded x).given ⊆ host.given x := by
  induction place with
  | itself => exact List.Subset.refl _
  | inSelect before after left _ ih =>
    exact Builder.condition.subset_middle before after (List.subset_cons_of_subset _ ih)
  | stepwiseSelect before after left operator _ ih =>
    exact Builder.condition.subset_middle before after
      (List.subset_cons_of_subset _ (List.subset_cons_of_subset _ ih))
  | not before after _ ih => exact Builder.condition.subset_middle before after ih
  | chained before after connective _ ih => exact Builder.condition.subset_middle before after ih
  | on before after _ ih => exact Builder.join.subset_middle before after ih
  | columnSelect before after name _ ih =>
    exact Builder.select.subset_middle before after (List.subset_cons_of_subset _ ih)
  | sourceSelect before after name _ ih =>
    exact Builder.select.subset_middle before after (List.subset_cons_of_subset _ ih)
  | joinSelect before after kind lateral name ties _ _ ih =>
    exact Builder.select.subset_middle before after
      (List.subset_cons_of_subset _ (List.subset_append_of_subset_left _ ih))
  | joinUnion before after kind name ties _ _ ih =>
    exact Builder.select.subset_middle before after
      (List.subset_cons_of_subset _ (List.subset_append_of_subset_left _ ih))
  | joinTies before after kind target _ _ ih =>
    exact Builder.select.subset_middle before after (List.subset_cons_of_subset _ ih)
  | joinSelectTies before after kind lateral select name _ _ ih =>
    exact Builder.select.subset_middle before after
      (List.subset_cons_of_subset _ (List.subset_append_of_subset_right _ ih))
  | joinUnionTies before after kind union name _ _ ih =>
    exact Builder.select.subset_middle before after
      (List.subset_cons_of_subset _ (List.subset_append_of_subset_right _ ih))
  | filter before after _ ih => exact Builder.select.subset_middle before after ih
  | having before after _ ih => exact Builder.select.subset_middle before after ih
  | unionSelect before after keepAll _ ih => exact Builder.union.subset_middle before after ih
  | unionUnion before after keepAll _ ih => exact Builder.union.subset_middle before after ih
  | assignSelect before after _ ih => exact Builder.assignment.subset_middle before after ih
  | set before after columns _ ih =>
    exact Builder.update.subset_middle before after (List.subset_append_of_subset_right _ ih)
  | updateJoin before after kind target _ ih =>
    exact Builder.update.subset_middle before after (List.subset_cons_of_subset _ ih)
  | updateFilter before after _ ih => exact Builder.update.subset_middle before after ih
  | conflictFilter columns before after _ ih =>
    exact List.subset_append_of_subset_right _ (Builder.conflict.subset_middle before after ih)
  | doUpdate target before after _ _ ih =>
    exact List.subset_append_of_subset_right _ (Builder.conflict.subset_middle before after ih)
  | insertSelect before after _ _ ih => exact Builder.insert.subset_middle before after ih
  | onConflict before after columns _ _ ih => exact Builder.insert.subset_middle before after ih
  | onConstraint before after name _ _ ih => exact Builder.insert.subset_middle before after ih
  | deleteFilter before after _ ih => exact Builder.delete.subset_middle before after ih

/-- Without parentheses an insert writes the update of a conflict. -/
theorem Embeds.bare_conflict {target : ConflictTarget} {calls : H → List ConflictCall}
    (place : Embeds embedded s (.conflict target calls)) (bare : s = .bare) (x : H) :
    ∃ update, embedded x = .update update := by
  cases place with
  | conflictFilter columns before after inner =>
    rw [bare] at inner
    exact (inner.allowed x).elim
  | @doUpdate inside update _ before after last inner =>
    have allowed := inner.allowed
    cases inside with
    | whole =>
      have made : (fun x => Program.update (update x)) = embedded := Host.program.inj allowed
      exact ⟨update x, (congrFun made x).symm⟩
    | bare =>
      obtain ⟨_, other⟩ := allowed x
      cases other
    | enclosed => cases bare

/-- What a program writes without parentheses of its own is the update of a conflict or
the select that an insert takes its rows from. -/
theorem Embeds.bare_program {p : H → Program} (place : Embeds embedded s (.program p))
    (bare : s = .bare) (x : H) :
    (∃ update, embedded x = .update update) ∨
      ∃ before calls after, embedded x = .select calls ∧
        p x = .insert (before ++ .select calls :: after) := by
  have insert := place.allowed
  rw [bare] at insert
  obtain ⟨all, isInsert⟩ := insert x
  cases place with
  | itself => cases bare
  | @insertSelect inside calls before after last inner =>
    have allowed := inner.allowed
    cases inside with
    | whole =>
      have made : (fun x => Program.select (calls x)) = embedded := Host.program.inj allowed
      exact Or.inr ⟨before, calls x, after, (congrFun made x).symm, rfl⟩
    | bare =>
      obtain ⟨_, other⟩ := allowed x
      cases other
    | enclosed => cases bare
  | onConflict before after columns last inner => exact Or.inl (inner.bare_conflict bare x)
  | onConstraint before after name last inner => exact Or.inl (inner.bare_conflict bare x)
  | _ => cases isInsert

end Embedding

/-- The text of a query stands in that of another one, with its placeholders raised,
between two parentheses of which the second closes the first. -/
def StandsEnclosed (sub host : Query) : Prop :=
  ∃ (front inner back : List Char) (fragments : List Fragment) (raised : Nat),
    host.sql.toList = front ++ '(' :: (inner ++ ')' :: back) ∧
    beforeClose? 0 (inner ++ ')' :: back) = some (inner, back) ∧
    sub.sql = writeFragments fragments ∧ placeholders fragments = sub.params.zipIdx 1 ∧
    inner = (writeFragments (fragments.map (Fragment.raise raised))).toList

theorem Embeds.standsEnclosed {sub host : Program}
    (place : Embeds (fun _ : Unit => sub) .enclosed (.program fun _ => host))
    (balanced : BalancedEach host.given) (written : sub.query.sql ≠ "") :
    StandsEnclosed sub.query host.query := by
  have placed : Placed .enclosed (fun _ : Unit => layOut sub.terms) fun _ => layOut host.terms :=
    place.holds
  obtain ⟨before, after, around⟩ := placed.relocates
  have seen : shows (layOut sub.terms) = true := by
    simpa [Program.query_eq, assemble, textFrom_eq_empty_iff] using written
  have whole : layOut host.terms =
      before ++ Setting.enclosed.surround (layOut sub.terms) ++ after :=
    around () (Setting.enclosed.textFrom_surround 1 _ seen).2.2
  have inside : BalancedPieces (layOut sub.terms) :=
    sub.balanced_pieces fun t member => balanced t (place.given_subset () member)
  -- the placeholders go on behind those in front of the place
  let raised := (slotValues before).length
  let behind := (slotValues (before ++ Setting.enclosed.surround (layOut sub.terms))).length
  refine ⟨(textFrom 1 before).toList, (textFrom (1 + raised) (layOut sub.terms)).toList,
    (textFrom (1 + behind) after).toList, number 1 (layOut sub.terms), raised, ?_,
    (inside (1 + raised)).beforeClose? _, ?_, ?_, ?_⟩
  · have text := (Setting.enclosed.textFrom_surround (1 + raised) _ seen).1
    rw [Program.query_eq, whole, assemble, textFrom_append, textFrom_append, text]
    simp [Setting.opening, Setting.closing, behind]
  · rw [Program.query_eq]
    rfl
  · rw [Program.query_eq]
    exact placeholders_number 1 _
  · rw [← number_raise]
    rfl

def Program.givesRows : Program → Bool
  | .select _ | .union _ => true
  | .insert _ | .update _ | .delete _ => false

/-- Where every literal that is written, every separator and every leading word is
balanced, so is the text that the terms compile to.  A program that is given balanced terms
has a balanced query; and a select or a union inside it, unless nothing is written for it,
stands between parentheses of its own, or is what an insert takes its rows from. -/
theorem parentheses_balanced :
    (∀ terms : List Term, Term.areBalanced terms = true → Balanced (compile terms).sql.toList) ∧
    ∀ host : Program, Term.areBalanced host.given = true →
      Balanced host.query.sql.toList ∧
      ∀ (sub : Program) (s : Setting), sub.givesRows = true → sub.query.sql ≠ "" → s ≠ .whole →
        Embeds (fun _ : Unit => sub) s (.program fun _ => host) →
        StandsEnclosed sub.query host.query ∨
          ∃ before calls after,
            sub = .select calls ∧ host = .insert (before ++ .select calls :: after) := by
  refine ⟨fun _ => balanced_compile, ?_⟩
  intro host balanced
  rw [Term.areBalanced_iff] at balanced
  refine ⟨?_, ?_⟩
  · rw [Program.query_eq]
    exact host.balanced_pieces balanced 1
  intro sub s rows written inside place
  cases s with
  | whole => exact absurd rfl inside
  | bare =>
    rcases place.bare_program rfl () with ⟨update, updates⟩ | taken
    · rw [updates] at rows
      cases rows
    · exact Or.inr taken
  | enclosed => exact Or.inl (place.standsEnclosed balanced written)

def bestOffer : List SelectCall := [.columns [.word "max(price)"], .sources [.word "offers"]]

def repriced : Program :=
  .update [.table (.word "items"), .set [.word "price"] [.select bestOffer],
    .filter [.rawText "coalesce(price, 0) > (1)"]]

theorem parentheses_balanced_repriced :
    repriced.query.sql =
        "update items set price = (select max(price) from offers) where (coalesce(price, 0) > (1))" ∧
      Balanced (compile [.paren "row" comma [.word "f(1)", .literal (.int4 2)]]).sql.toList ∧
      Balanced repriced.query.sql.toList ∧
      StandsEnclosed (Program.select bestOffer).query repriced.query := by
  obtain ⟨compiled, programs⟩ := parentheses_balanced
  obtain ⟨balanced, within⟩ := programs repriced (by decide)
  have assigned : Embeds (fun _ : Unit => .select bestOffer) .enclosed
      (.values fun _ => [.select bestOffer]) := Embeds.assignSelect [] [] .itself
  have place : Embeds (fun _ : Unit => .select bestOffer) .enclosed (.program fun _ => repriced) :=
    assigned.set [.table (.word "items")] [.filter [.rawText "coalesce(price, 0) > (1)"]]
      [.word "price"]
  refine ⟨by decide +kernel, compiled _ (by decide), balanced, ?_⟩
  have written : (Program.select bestOffer).query.sql ≠ "" := by decide
  rcases within _ .enclosed rfl written (by simp) place with enclosed | ⟨_, _, _, _, other⟩
  · exact enclosed
  · cases other

end BoundSql
