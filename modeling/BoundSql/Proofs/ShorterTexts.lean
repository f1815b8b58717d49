import BoundSql.Proofs.Sentences

/-! # Fewer pieces, shorter texts

Pieces that lack some of others have a shorter text, unless what they lack does not
show.  Without a slot the numbers behind it are lower, but a lower number is not written
longer.  So two texts that differ by dropped pieces are the same text only where nothing
that shows was dropped. -/
set_option autoImplicit false
namespace BoundSql

theorem length_placeholder_le {m n : Nat} (le : m ≤ n) :
    (placeholder m).length ≤ (placeholder n).length := by
  have bound : n < 10 ^ n.repr.length :=
    (Nat.length_repr_le_iff n.length_repr_pos).mp (Nat.le_refl _)
  have digits : m.repr.length ≤ n.repr.length :=
    (Nat.length_repr_le_iff n.length_repr_pos).mpr (Nat.lt_of_le_of_lt le bound)
  simpa [placeholder] using digits

/-- Each piece that shows and is dropped takes a character away at least. -/
theorem length_text_of_sublist {less more : List Piece} (h : less.Sublist more) {m n : Nat}
    (le : m ≤ n) :
    (textFrom m less).length + more.countP Piece.shows ≤
      (textFrom n more).length + less.countP Piece.shows := by
  -- behind a dropped slot the two texts count on from different numbers
  induction h generalizing m n with
  | slnil => simp
  | @cons less more p _ ih =>
    cases p with
    | text s =>
      have rest := ih le
      have own : [Piece.text s].countP Piece.shows ≤ s.length := by
        by_cases empty : s = ""
        · simp [empty, Piece.shows]
        · have positive : s.length ≠ 0 := mt String.length_eq_zero_iff.mp empty
          have one := List.countP_le_length (p := Piece.shows) (l := [Piece.text s])
          rw [List.length_singleton] at one
          omega
      rw [textFrom_text, String.length_append, ← List.singleton_append, List.countP_append]
      omega
    | slot v =>
      have rest := ih (n := n + 1) (Nat.le_succ_of_le le)
      have own : 0 < (placeholder n).length :=
        Nat.pos_of_ne_zero (mt String.length_eq_zero_iff.mp (placeholder_ne_empty n))
      have seen : (Piece.slot v).shows = true := rfl
      rw [textFrom_slot, String.length_append, List.countP_cons_of_pos seen]
      omega
  | @cons_cons less more p _ ih =>
    rw [List.countP_cons, List.countP_cons]
    cases p with
    | text s =>
      have rest := ih le
      rw [textFrom_text, textFrom_text, String.length_append, String.length_append]
      omega
    | slot v =>
      have rest := ih (m := m + 1) (n := n + 1) (Nat.succ_le_succ le)
      have own := length_placeholder_le le
      rw [textFrom_slot, textFrom_slot, String.length_append, String.length_append]
      omega

theorem countP_shows_eq {less more : List Piece} (h : less.Sublist more) {n : Nat}
    (text : textFrom n more = textFrom n less) :
    more.countP Piece.shows = less.countP Piece.shows := by
  have longer := length_text_of_sublist h (Nat.le_refl n)
  have fewer := h.countP_le (p := Piece.shows)
  rw [text] at longer
  omega

theorem countP_shows_pos_iff (pieces : List Piece) :
    0 < pieces.countP Piece.shows ↔ shows pieces = true := by
  rw [List.countP_pos_iff, shows, List.any_eq_true]

/-- Between the same pieces none that shows is missed where the query is the same. -/
theorem countP_shows_between {before less more after : List Piece} (h : less.Sublist more)
    (query : assemble (before ++ more ++ after) = assemble (before ++ less ++ after)) :
    more.countP Piece.shows = less.countP Piece.shows := by
  have dropped := ((List.Sublist.refl before).append h).append (List.Sublist.refl after)
  have count := countP_shows_eq dropped (congrArg Query.sql query)
  simp only [List.countP_append] at count
  omega

/-- Pieces between others make another query exactly where they show. -/
theorem assemble_between_iff (before between after : List Piece) :
    assemble (before ++ between ++ after) = assemble (before ++ after) ↔
      shows between = false := by
  constructor
  · intro unchanged
    have missed : assemble (before ++ between ++ after) = assemble (before ++ [] ++ after) := by
      rw [unchanged, List.append_nil]
    have count := countP_shows_between (List.nil_sublist between) missed
    rw [← Bool.not_eq_true, ← countP_shows_pos_iff, count]
    exact Nat.lt_irrefl 0
  · intro hidden
    have text : textFrom (1 + (slotValues before).length) between = "" :=
      (textFrom_eq_empty_iff _ between).mpr hidden
    have values := slotValues_of_not_shows between hidden
    simp only [assemble, textFrom_append, slotValues_append, text, values, String.append_empty,
      List.append_nil]

section Rows
variable (separator : List Piece) {less more : List (List Piece)}

theorem intercalate_sublist_cons (part : List Piece) (rest : List (List Piece)) :
    (separator.intercalate rest).Sublist (separator.intercalate (part :: rest)) := by
  by_cases last : rest = []
  · rw [last, List.intercalate_nil]
    exact List.nil_sublist _
  · rw [List.intercalate_cons_of_ne_nil last]
    exact List.sublist_append_right _ _

theorem intercalate_sublist (h : less.Sublist more) :
    (separator.intercalate less).Sublist (separator.intercalate more) := by
  induction h with
  | slnil => exact .refl _
  | @cons less more part _ ih => exact ih.trans (intercalate_sublist_cons separator part more)
  | @cons_cons less more part h ih =>
    by_cases noLess : less = []
    · subst noLess
      by_cases last : more = []
      · rw [last]
      · rw [List.intercalate_singleton, List.intercalate_cons_of_ne_nil last, List.append_assoc]
        exact List.sublist_append_left _ _
    · have someMore : more ≠ [] := fun last => noLess (List.eq_nil_of_sublist_nil (last ▸ h))
      rw [List.intercalate_cons_of_ne_nil noLess, List.intercalate_cons_of_ne_nil someMore]
      exact (List.Sublist.refl _).append ih

theorem countP_intercalate_cons (part : List Piece) (rest : List (List Piece)) :
    part.countP Piece.shows + (separator.intercalate rest).countP Piece.shows ≤
      (separator.intercalate (part :: rest)).countP Piece.shows := by
  by_cases last : rest = []
  · simp [last]
  · rw [List.intercalate_cons_of_ne_nil last, List.countP_append, List.countP_append]
    omega

theorem countP_intercalate_lt (h : less.Sublist more)
    (fewer : less.countP shows < more.countP shows) :
    (separator.intercalate less).countP Piece.shows <
      (separator.intercalate more).countP Piece.shows := by
  induction h with
  | slnil => exact absurd fewer (Nat.lt_irrefl 0)
  | @cons less more part h ih =>
    -- the part that is dropped shows, or one that does is missed behind it
    have kept := (intercalate_sublist separator h).countP_le (p := Piece.shows)
    have whole := countP_intercalate_cons separator part more
    rw [List.countP_cons] at fewer
    cases seen : shows part with
    | true =>
      have own := (countP_shows_pos_iff part).mpr seen
      omega
    | false =>
      have rest := ih (by simpa [seen] using fewer)
      omega
  | @cons_cons less more part h ih =>
    have rest := ih (by simpa [List.countP_cons] using fewer)
    have someMore : more ≠ [] := by
      rintro rfl
      simp at rest
    rw [List.intercalate_cons_of_ne_nil someMore, List.countP_append, List.countP_append]
    by_cases noLess : less = []
    · rw [noLess, List.intercalate_nil, List.countP_nil] at rest
      rw [noLess, List.intercalate_singleton]
      omega
    · rw [List.intercalate_cons_of_ne_nil noLess, List.countP_append, List.countP_append]
      omega

end Rows

/-- The pieces of terms behind others, each behind a blank. -/
def following (ts : List Term) : List Piece := trailing " " (Term.piecesEach ts)

theorem following_append (front back : List Term) :
    following (front ++ back) = following front ++ following back := by
  simp only [following, Term.piecesEach_eq, List.map_append, trailing_append]

/-- What stands behind a term that shows is written piece by piece. -/
theorem layOut_cons {first : Term} (seen : shows first.pieces = true) (rest : List Term) :
    layOut (first :: rest) = first.pieces ++ following rest := by
  have whole := joinPieces_middle " " [] (Term.piecesEach rest) first.pieces seen
  rw [layOut, Term.piecesEach]
  exact whole

theorem following_cons (t : Term) (rest : List Term) :
    following (t :: rest) =
      (if shows t.pieces then .text " " :: t.pieces else []) ++ following rest := by
  cases seen : shows t.pieces <;> simp [following, trailing, Term.piecesEach, seen]

theorem shows_following (ts : List Term) :
    shows (following ts) = ts.any fun t => shows t.pieces := by
  induction ts with
  | nil => rfl
  | cons t rest ih =>
    rw [following_cons, shows_append, ih, List.any_cons]
    cases seen : shows t.pieces with
    | true => simp [shows, Piece.shows]
    | false => rfl

/-- Terms of a statement that stands between pieces. -/
theorem layOut_within (before after : List Piece) {first : Term}
    (seen : shows first.pieces = true) (front between back : List Term) :
    before ++ layOut (first :: (front ++ between ++ back)) ++ after =
      (before ++ (first.pieces ++ following front)) ++ following between
        ++ (following back ++ after) := by
  rw [layOut_cons seen, following_append, following_append]
  simp only [List.append_assoc]

/-- Where a statement stands, terms in it make another query exactly where one of them
shows. -/
theorem assemble_terms_iff (before after : List Piece) {first : Term}
    (seen : shows first.pieces = true) (front between back : List Term) :
    assemble (before ++ layOut (first :: (front ++ between ++ back)) ++ after) =
        assemble (before ++ layOut (first :: (front ++ back)) ++ after) ↔
      ∀ t ∈ between, shows t.pieces = false := by
  have bare := layOut_within before after seen front [] back
  have nothing : following [] = [] := rfl
  rw [nothing, List.append_nil, List.append_nil] at bare
  rw [layOut_within before after seen, bare, assemble_between_iff, shows_following,
    List.any_eq_false]
  simp only [Bool.not_eq_true]

section Clauses
variable {keyword : String} (word : keyword ≠ "")

theorem following_listClause {items : List Term} (nonempty : items ≠ [])
    (all : ∀ t ∈ items, shows t.pieces = true) :
    following (listClause keyword items) =
      following [.word keyword] ++ .text " " :: listed (items.map Term.pieces) := by
  have entries : Shown (.commaList items) (.listed (items.map Term.pieces)) :=
    .listed rfl (by simpa using nonempty) (by simpa using all)
  have seen := entries.full.filled.shows
  rw [← entries.pieces] at seen
  have behind : following [.commaList items] = .text " " :: listed (items.map Term.pieces) := by
    rw [following_cons, if_pos seen, entries.pieces]
    exact List.append_nil _
  rw [listClause, if_neg (by simpa using nonempty), ← behind]
  exact following_append [_] [_]

theorem following_listClause_shorter {less more : List Term} (h : less.Sublist more)
    (all : ∀ t ∈ more, shows t.pieces = true) :
    (following (listClause keyword less)).Sublist (following (listClause keyword more)) ∧
      (less ≠ more → (following (listClause keyword less)).countP Piece.shows <
        (following (listClause keyword more)).countP Piece.shows) := by
  have rows := h.map Term.pieces
  have allRows : ∀ row ∈ more.map Term.pieces, shows row = true := by simpa using all
  by_cases last : more = []
  · have noLess : less = [] := List.eq_nil_of_sublist_nil (last ▸ h)
    rw [noLess, last]
    exact ⟨.refl _, absurd rfl⟩
  rw [following_listClause last all]
  by_cases noLess : less = []
  · subst noLess
    refine ⟨List.nil_sublist _, fun _ => (countP_shows_pos_iff _).mpr ?_⟩
    simp [shows, Piece.shows]
  rw [following_listClause noLess fun t member => all t (h.subset member)]
  refine ⟨(List.Sublist.refl _).append ((intercalate_sublist _ rows).cons_cons _), fun fewer => ?_⟩
  have counted : (less.map Term.pieces).countP shows < (more.map Term.pieces).countP shows := by
    rw [List.countP_eq_length.mpr allRows,
      List.countP_eq_length.mpr fun row member => allRows row (rows.subset member),
      List.length_map, List.length_map]
    exact Nat.lt_of_le_of_ne h.length_le (mt h.eq_of_length fewer)
  have strict := countP_intercalate_lt [Piece.text comma] rows counted
  rw [List.countP_append, List.countP_append, List.countP_cons, List.countP_cons]
  exact Nat.add_lt_add_left (Nat.add_lt_add_right strict _) _

/-- An item of a list clause is never missed without a trace. -/
theorem assemble_listClause_iff (before after : List Piece) {first : Term}
    (seen : shows first.pieces = true) (front back : List Term) {less more : List Term}
    (h : less.Sublist more) (all : ∀ t ∈ more, shows t.pieces = true) :
    assemble (before ++ layOut (first :: (front ++ listClause keyword more ++ back)) ++ after) =
        assemble (before ++ layOut (first :: (front ++ listClause keyword less ++ back)) ++ after) ↔
      less = more := by
  refine ⟨fun unchanged => ?_, fun unchanged => by rw [unchanged]⟩
  obtain ⟨dropped, strict⟩ := @following_listClause_shorter keyword _ _ h all
  rw [layOut_within before after seen, layOut_within before after seen] at unchanged
  have count := countP_shows_between dropped unchanged
  by_contra fewer
  exact Nat.ne_of_lt (strict fewer) count.symm

include word

theorem shows_word : shows (Term.word keyword).pieces = true := by
  simpa [Term.word, Term.pieces, Literal.render, shows, Piece.shows] using word

theorem conditionClause_hidden_iff (c : Condition) :
    (∀ t ∈ conditionClause keyword c, shows t.pieces = false) ↔ c.isEmpty = true := by
  rw [conditionClause]
  cases c.isEmpty <;> simp [shows_word word]

theorem termClause_hidden_iff (t : Option Term) :
    (∀ u ∈ termClause keyword t, shows u.pieces = false) ↔ t = none := by
  cases t <;> simp [termClause, shows_word word]

end Clauses

end BoundSql
