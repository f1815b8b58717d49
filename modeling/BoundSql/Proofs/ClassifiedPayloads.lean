import BoundSql.Proofs.Pieces
import BoundSql.Proofs.Wrappers

/-! # Classified payloads

What stands in `any` and `all` is classified like a value while a query is compiled.  It
can as well be classified before, at any number of places of a list and however deep they
are: each term is written as it was, whatever has been bound in front of it, so the query
is the same.  Where all of them are classified before, none is left to be bound while the
query is compiled. -/
set_option autoImplicit false
namespace BoundSql

/-- The way down to a term: its number in the list, then its number among the items of the
term that stands there, and so on.  What stands in `any` or `all` has the number zero. -/
abbrev Place := List Nat

def chosenIn (n : Nat) (chosen : Place → Bool) : Place → Bool := fun place => chosen (n :: place)

mutual

/-- The same term with the payloads of `any` and `all` classified like values, wherever a
chosen `any` or `all` stands. -/
def Term.classifyPayloads (chosen : Place → Bool) : Term → Term
  | .quantified q payload =>
    let inner := payload.classifyPayloads (chosenIn 0 chosen)
    .quantified q (if chosen [] then inner.arg else inner)
  | .group separator items => .group separator (Term.classifyPayloadsFrom 0 chosen items)
  | .paren lead separator items => .paren lead separator (Term.classifyPayloadsFrom 0 chosen items)
  | .nested items => .nested (Term.classifyPayloadsFrom 0 chosen items)
  | .literal l => .literal l
  | .unbound l => .unbound l
  | .bound v => .bound v
  | .default => .default

def Term.classifyPayloadsFrom (n : Nat) (chosen : Place → Bool) : List Term → List Term
  | [] => []
  | t :: rest =>
    t.classifyPayloads (chosenIn n chosen) :: Term.classifyPayloadsFrom (n + 1) chosen rest

end

mutual

/-- A plain literal is left in `any` or `all`, to be bound while the query is compiled. -/
def Term.bindsLate : Term → Bool
  | .quantified _ (.literal _) => true
  | .quantified _ payload => payload.bindsLate
  | .group _ items | .paren _ _ items | .nested items => Term.anyBindsLate items
  | .literal _ | .unbound _ | .bound _ | .default => false

def Term.anyBindsLate : List Term → Bool
  | [] => false
  | t :: rest => t.bindsLate || Term.anyBindsLate rest

end

/-- What happens inside a term does not change how it is classified. -/
theorem Term.arg_classifyPayloads (chosen : Place → Bool) (t : Term) :
    (t.classifyPayloads chosen).arg = t.arg.classifyPayloads chosen := by
  cases t with
  | literal l => cases l <;> rfl
  | _ => rfl

/-- Classifying a payload a second time changes nothing. -/
theorem Term.write_quantified_arg (q : Quantifier) (payload : Term) (args : Arguments) :
    (Term.quantified q payload.arg).write args = (Term.quantified q payload).write args := by
  rw [Term.write_quantified, Term.write_quantified, payload.arg_arg]

/-- Where a term is written as it was, so is its classified form. -/
theorem Term.write_arg_classifyPayloads {chosen : Place → Bool} {t : Term} {args : Arguments}
    (unchanged : (t.classifyPayloads chosen).write args = t.write args) :
    (t.classifyPayloads chosen).arg.write args = t.arg.write args := by
  rcases t.literal_or_arg_eq with ⟨l, rfl⟩ | fixed
  · rfl
  · rw [Term.arg_classifyPayloads, fixed, unchanged]

mutual

theorem Term.write_classifyPayloads (chosen : Place → Bool) (t : Term) (args : Arguments) :
    (t.classifyPayloads chosen).write args = t.write args := by
  cases t with
  | literal l => rfl
  | unbound l => rfl
  | bound v => rfl
  | quantified q payload =>
    have inside := Term.write_arg_classifyPayloads
      (Term.write_classifyPayloads (chosenIn 0 chosen) payload args)
    have late : (Term.quantified q (payload.classifyPayloads (chosenIn 0 chosen))).write args =
        (Term.quantified q payload).write args := by
      rw [Term.write_quantified, Term.write_quantified, inside]
    rw [classifyPayloads]
    -- at a chosen place the payload is classified twice, here and when it is written
    cases chosen [] with
    | false => exact late
    | true => exact (Term.write_quantified_arg q _ args).trans late
  | default => rfl
  | group separator items =>
    rw [classifyPayloads, write, write, Term.writeEach_classifyPayloads 0 chosen items]
  | paren lead separator items =>
    rw [classifyPayloads, write, write, Term.writeEach_classifyPayloads 0 chosen items]
  | nested items =>
    rw [classifyPayloads, write, write, Term.writeEach_classifyPayloads 0 chosen items]

/-- The arguments that an item finds are those that it found before, since each item in
front of it is written as it was. -/
theorem Term.writeEach_classifyPayloads (n : Nat) (chosen : Place → Bool) (ts : List Term)
    (args : Arguments) :
    Term.writeEach (Term.classifyPayloadsFrom n chosen ts) args = Term.writeEach ts args := by
  cases ts with
  | nil => rfl
  | cons t rest =>
    rw [classifyPayloadsFrom, writeEach, writeEach,
      Term.write_classifyPayloads (chosenIn n chosen) t args,
      Term.writeEach_classifyPayloads (n + 1) chosen rest]

end

theorem Term.bindsLate_quantified_arg (q : Quantifier) (payload : Term) :
    (Term.quantified q payload.arg).bindsLate = payload.bindsLate := by
  cases payload with
  | literal l => cases l <;> rfl
  | _ => rfl

mutual

theorem Term.bindsLate_classifyPayloads (t : Term) :
    (t.classifyPayloads fun _ => true).bindsLate = false := by
  cases t with
  | quantified q payload =>
    exact (Term.bindsLate_quantified_arg q _).trans (Term.bindsLate_classifyPayloads payload)
  | group separator items => exact Term.anyBindsLate_classifyPayloads 0 items
  | paren lead separator items => exact Term.anyBindsLate_classifyPayloads 0 items
  | nested items => exact Term.anyBindsLate_classifyPayloads 0 items
  | _ => rfl

theorem Term.anyBindsLate_classifyPayloads (n : Nat) (ts : List Term) :
    Term.anyBindsLate (Term.classifyPayloadsFrom n (fun _ => true) ts) = false := by
  cases ts with
  | nil => rfl
  | cons t rest =>
    have first := Term.bindsLate_classifyPayloads t
    have others := Term.anyBindsLate_classifyPayloads (n + 1) rest
    exact Bool.or_eq_false_iff.mpr ⟨first, others⟩

end

/-- It does not matter which payloads of `any` and `all` are classified before a query is
compiled: its text and its arguments are the same for every choice of places, and if all
are chosen, no plain literal is left in any of them. -/
theorem compile_classifyPayloads :
    (∀ (chosen : Place → Bool) (terms : List Term),
      compile (Term.classifyPayloadsFrom 0 chosen terms) = compile terms) ∧
    ∀ terms : List Term,
      Term.anyBindsLate (Term.classifyPayloadsFrom 0 (fun _ => true) terms) = false := by
  refine ⟨fun chosen terms => ?_, Term.anyBindsLate_classifyPayloads 0⟩
  rw [compile, compile, Term.writeEach_classifyPayloads]

/-- Only the payload at the chosen place is classified, here the one inside the parentheses. -/
example :
    Term.classifyPayloadsFrom 0 (fun place => place == [3, 1])
        [.word "day =", .quantified .any (.literal (.int4 3)), .word "and",
          .paren "" " " [.word "id =", .quantified .all (.literal (.int4 7))]] =
      [.word "day =", .quantified .any (.literal (.int4 3)), .word "and",
        .paren "" " " [.word "id =", .quantified .all (.bound (.int4 7))]] := rfl

end BoundSql
