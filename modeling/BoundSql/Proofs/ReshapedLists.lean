import BoundSql.Proofs.BlankTerms
import BoundSql.Proofs.Sentences

/-! # Reshaped lists

The text of a query does not tell which items of a list came to nothing, nor whether a
list was given inside another one with the same separator.  So items without a text may
be put into any list and taken out of it, and a list may be written into the one around
it, at any depth: the query stays the same. -/
set_option autoImplicit false
namespace BoundSql

/-- The terms that are made of a list, written with the separator, and the same terms in
any number of `any` and `all`. -/
inductive MadeOfList : String → (List Term → Term) → Prop
  | group (separator : String) : MadeOfList separator (.group separator)
  | paren (lead separator : String) : MadeOfList separator (.paren lead separator)
  | nested : MadeOfList " " .nested
  | quantified (q : Quantifier) {separator : String} {make : List Term → Term}
    (h : MadeOfList separator make) : MadeOfList separator fun items => .quantified q (make items)

/-- Lists for one separator that differ, at any depth, in items without a text and in
lists that are written into the list around them. -/
inductive Reshaped : String → List Term → List Term → Prop
  | dropped {separator : String} {t : Term} (empty : (compile [t]).sql = "")
    (before after : List Term) : Reshaped separator (before ++ t :: after) (before ++ after)
  | splicedNested (items before after : List Term) :
    Reshaped " " (before ++ .nested items :: after) (before ++ items ++ after)
  | splicedGroup (separator : String) (items before after : List Term) :
    Reshaped separator (before ++ .group separator items :: after) (before ++ items ++ after)
  | inside {separator inner : String} {make : List Term → Term} (h : MadeOfList inner make)
    {xs ys : List Term} (held : Reshaped inner xs ys) (before after : List Term) :
    Reshaped separator (before ++ make xs :: after) (before ++ make ys :: after)
  | refl {separator : String} (xs : List Term) : Reshaped separator xs xs
  | symm {separator : String} {xs ys : List Term} (h : Reshaped separator xs ys) :
    Reshaped separator ys xs
  | trans {separator : String} {xs ys zs : List Term} (h : Reshaped separator xs ys)
    (k : Reshaped separator ys zs) : Reshaped separator xs zs

theorem joinPieces_without (separator : String) (front back : List (List Piece))
    {child : List Piece} (hidden : shows child = false) :
    joinPieces separator (front ++ child :: back) = joinPieces separator (front ++ back) := by
  have visible : (front ++ child :: back).filter shows = (front ++ back).filter shows := by
    simp [hidden]
  rw [← joinPieces_filter, visible, joinPieces_filter]

def listPieces (separator : String) (items : List Term) : List Piece :=
  joinPieces separator (Term.piecesEach items)

section Lists
variable (separator : String) (before after : List Term)

theorem listPieces_dropped {t : Term} (blank : t.isBlank = true) :
    listPieces separator (before ++ t :: after) = listPieces separator (before ++ after) := by
  have hidden : shows t.pieces = false := by rw [t.shows_pieces, blank]; rfl
  rw [listPieces, listPieces, Term.piecesEach_middle, Term.piecesEach_append,
    joinPieces_without separator _ _ hidden]

/-- An item with the pieces of a list stands for the items of that list. -/
theorem listPieces_spliced {t : Term} {items : List Term}
    (alike : t.pieces = listPieces separator items) :
    listPieces separator (before ++ t :: after) =
      listPieces separator (before ++ items ++ after) := by
  rw [listPieces, listPieces, Term.piecesEach_middle, Term.piecesEach_append,
    Term.piecesEach_append, alike, listPieces, joinPieces_nested]

theorem listPieces_congr {t u : Term} (alike : t.pieces = u.pieces) :
    listPieces separator (before ++ t :: after) = listPieces separator (before ++ u :: after) := by
  rw [listPieces, listPieces, Term.piecesEach_middle, Term.piecesEach_middle, alike]

end Lists

section
variable {separator : String} {make : List Term → Term}

theorem MadeOfList.arg_eq (h : MadeOfList separator make) (items : List Term) :
    (make items).arg = make items := by
  cases h <;> rfl

theorem MadeOfList.pieces_congr (h : MadeOfList separator make) {xs ys : List Term}
    (alike : listPieces separator xs = listPieces separator ys) :
    (make xs).pieces = (make ys).pieces := by
  induction h with
  | group separator => exact alike
  | paren lead separator => exact congrArg (enclosedPieces lead) alike
  | nested => exact alike
  | quantified q h ih =>
    rw [Term.pieces_quantified, Term.pieces_quantified, h.arg_eq, h.arg_eq, ih alike]

end

theorem Reshaped.listPieces_eq {separator : String} {xs ys : List Term}
    (h : Reshaped separator xs ys) : listPieces separator xs = listPieces separator ys := by
  induction h with
  | dropped empty before after =>
    exact listPieces_dropped _ before after ((compile_eq_empty_iff _).mp empty)
  | splicedNested items before after => exact listPieces_spliced " " before after rfl
  | splicedGroup separator items before after =>
    exact listPieces_spliced separator before after rfl
  | inside h _ before after ih => exact listPieces_congr _ before after (h.pieces_congr ih)
  | refl xs => rfl
  | symm _ ih => exact ih.symm
  | trans _ _ ih ik => exact ih.trans ik

/-- A term without a text binds nothing, wherever it stands, and a query does not tell
reshaped lists apart: neither its text nor its arguments do. -/
theorem compile_reshaped :
    (∀ (t : Term) (args : Arguments), (t.write args).1 = "" → (t.write args).2 = args) ∧
      ∀ xs ys : List Term, Reshaped " " xs ys → compile xs = compile ys := by
  refine ⟨fun t args empty => t.write_blank empty, fun xs ys h => ?_⟩
  have pieces : layOut xs = layOut ys := h.listPieces_eq
  rw [compile_eq_assemble, compile_eq_assemble, pieces]

def layeredFilter : List Term :=
  [.word "where", .nested [.nested [.paren "" " and "
    [.group " " [.word "id", .word "=", .nested [.quantified .any
        (.paren "" comma [.bound (.int4 1), .commaList [.bound (.int4 2), .word ""]])]],
      .commaList [.nested []], .group " and " [.word "a", .bound (.bool true)]]]]]

def flatFilter : List Term :=
  [.word "where", .paren "" " and "
    [.group " " [.word "id", .word "=", .quantified .any
        (.paren "" comma [.bound (.int4 1), .bound (.int4 2)])],
      .word "a", .bound (.bool true)]]

theorem reshaped_layeredFilter : Reshaped " " layeredFilter flatFilter := by
  -- the filter is taken out of the two lists around it
  refine .trans (.splicedNested _ [.word "where"] []) ?_
  refine .trans (.splicedNested _ [.word "where"] []) ?_
  refine .inside (.paren "" " and ") ?_ [.word "where"] []
  -- the item without a text goes, and the inner conjunction opens up
  refine .trans (.dropped (by decide +kernel) [_] _) ?_
  refine .trans (.splicedGroup " and " _ [_] []) ?_
  -- in the comparison, the values become one list
  refine .inside (.group " ") ?_ [] _
  refine .trans (.splicedNested _ [.word "id", .word "="] []) ?_
  refine .inside (.quantified .any (.paren "" comma)) ?_ [.word "id", .word "="] []
  refine .trans (.splicedGroup comma _ [.bound (.int4 1)] []) ?_
  exact .dropped (by decide +kernel) [.bound (.int4 1), .bound (.int4 2)] []

theorem compile_reshaped_layeredFilter :
    ((Term.commaList [.nested []]).write .empty).1 = "" ∧
      ((Term.commaList [.nested []]).write .empty).2 = .empty ∧
      Reshaped " " layeredFilter flatFilter ∧ compile layeredFilter = compile flatFilter ∧
      (compile layeredFilter).sql = "where (id = any(($1, $2)) and a and $3)" := by
  have empty : ((Term.commaList [.nested []]).write .empty).1 = "" := rfl
  exact ⟨empty, compile_reshaped.1 _ _ empty, reshaped_layeredFilter,
    compile_reshaped.2 _ _ reshaped_layeredFilter, by decide +kernel⟩

end BoundSql
