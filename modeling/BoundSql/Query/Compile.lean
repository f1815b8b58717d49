import BoundSql.Query.Arguments
import BoundSql.Term.Basic

/-! # Compiling terms

`compile` writes a list of terms as one text.  Bound values become placeholders,
numbered in the order in which they are met.  A term whose text is empty leaves
no trace: its list closes up around it, and a pair of parentheses around nothing
is not written.  A plain literal as the payload of `any` or `all` is bound. -/
set_option autoImplicit false
namespace BoundSql

structure Query where
  sql : String
  params : List Value

/-- The texts that are not empty, with the separator between them. -/
def joinTexts (separator : String) (texts : List String) : String :=
  separator.intercalate (texts.filter fun s => !s.isEmpty)

@[simp]
theorem joinTexts_nil (separator : String) : joinTexts separator [] = "" := rfl

@[simp]
theorem joinTexts_cons_empty (separator : String) (texts : List String) :
    joinTexts separator ("" :: texts) = joinTexts separator texts := by
  simp [joinTexts]

/-- Text in parentheses behind a leading word; nothing at all around nothing. -/
def enclosed (lead inner : String) : String :=
  if inner.isEmpty then "" else lead ++ "(" ++ inner ++ ")"

def placeholder (n : Nat) : String := "$" ++ n.repr

def Value.write (v : Value) (args : Arguments) : String × Arguments :=
  (placeholder (args.bind v).1, (args.bind v).2)

/-- Binds a literal, or writes it where it has no value. -/
def Literal.writeBound (l : Literal) (args : Arguments) : String × Arguments :=
  match l.toValue? with
  | some v => v.write args
  | none => (l.render, args)

def Quantifier.around (q : Quantifier) (inner : String) : String := q.text ++ "(" ++ inner ++ ")"

mutual

/-- The text of one term, with the values it binds added to the arguments. -/
def Term.write : Term → Arguments → String × Arguments
  | .literal l, args => (l.render, args)
  | .unbound l, args => (l.render, args)
  | .bound v, args => v.write args
  | .quantified q (.literal l), args =>
    let written := l.writeBound args
    (q.around written.1, written.2)
  | .quantified q payload, args =>
    let written := payload.write args
    (q.around written.1, written.2)
  | .default, args => ("default", args)
  | .group separator items, args =>
    let written := Term.writeEach items args
    (joinTexts separator written.1, written.2)
  | .paren lead separator items, args =>
    let written := Term.writeEach items args
    (enclosed lead (joinTexts separator written.1), written.2)
  | .nested items, args =>
    let written := Term.writeEach items args
    (joinTexts " " written.1, written.2)

def Term.writeEach : List Term → Arguments → List String × Arguments
  | [], args => ([], args)
  | t :: rest, args =>
    let first := t.write args
    let others := Term.writeEach rest first.2
    (first.1 :: others.1, others.2)

end

/-- What stands in `any` or `all` is classified like a value. -/
theorem Term.write_quantified (q : Quantifier) (payload : Term) (args : Arguments) :
    (Term.quantified q payload).write args =
      (q.around (payload.arg.write args).1, (payload.arg.write args).2) := by
  cases payload with
  | literal l => cases l <;> rfl
  | _ => rfl

theorem Term.writeEach_append (first second : List Term) (args : Arguments) :
    Term.writeEach (first ++ second) args =
      ((Term.writeEach first args).1 ++
          (Term.writeEach second (Term.writeEach first args).2).1,
        (Term.writeEach second (Term.writeEach first args).2).2) := by
  induction first generalizing args with
  | nil => simp [Term.writeEach]
  | cons t rest ih => simp [Term.writeEach, ih]

/-- The query that a list of terms stands for. -/
def compile (terms : List Term) : Query :=
  let written := Term.writeEach terms .empty
  ⟨joinTexts " " written.1, written.2.toList⟩

end BoundSql
