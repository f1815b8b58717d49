import BoundSql.Proofs.BooleanGrammar
import BoundSql.Proofs.Pieces

/-! # Phrases in a text

A row of pieces is a phrase when its text is that of tokens that the grammar
reads, and it means what is read.  Each form of the grammar gives a way to put
phrases together; blanks around words belong to the words. -/
set_option autoImplicit false
namespace BoundSql

def Token.pieces : Token → List Piece
  | .opening => [.text "("]
  | .closing => [.text ")"]
  | .not => [.text "not "]
  | .and => [.text " and "]
  | .or => [.text " or "]
  | .constant b => [.text (Text.boolText b)]
  | .atom t => t.pieces

def spell (ts : List Token) : List Piece := ts.flatMap Token.pieces

/-- Pieces that cannot be told apart in a text. -/
structure SameText (first second : List Piece) : Prop where
  text : ∀ n, textFrom n first = textFrom n second
  values : slotValues first = slotValues second

theorem SameText.refl (pieces : List Piece) : SameText pieces pieces := ⟨fun _ => rfl, rfl⟩

theorem SameText.trans {first second third : List Piece} (h : SameText first second)
    (k : SameText second third) : SameText first third :=
  ⟨fun n => (h.text n).trans (k.text n), h.values.trans k.values⟩

theorem SameText.append {a b c d : List Piece} (h : SameText a b) (k : SameText c d) :
    SameText (a ++ c) (b ++ d) := by
  refine ⟨?_, ?_⟩
  · intro n
    rw [textFrom_append, textFrom_append, h.text, h.values, k.text]
  · rw [slotValues_append, slotValues_append, h.values, k.values]

theorem SameText.merge (s t : String) (rest : List Piece) :
    SameText (.text (s ++ t) :: rest) (.text s :: .text t :: rest) := by
  refine ⟨?_, ?_⟩
  · intro n
    rw [textFrom_text, textFrom_text, textFrom_text, String.append_assoc]
  · rw [slotValues_text, slotValues_text, slotValues_text]

theorem SameText.shows {first second : List Piece} (h : SameText first second) :
    shows second = shows first := by
  have empty := h.text 0
  have iff := textFrom_eq_empty_iff 0
  cases k : BoundSql.shows first with
  | false =>
    rw [(iff first).mpr k] at empty
    exact (iff second).mp empty.symm
  | true =>
    cases l : BoundSql.shows second with
    | true => rfl
    | false =>
      rw [(iff second).mpr l] at empty
      rw [(iff first).mp empty] at k
      exact k

/-- The pieces spell tokens that are read as `y`, which agrees with `x`. -/
structure Phrase (level : Level) (pieces : List Piece) (x : Formula) (tokens : List Token)
    (y : Formula) : Prop where
  reads : Reads level tokens y
  agrees : y.Agrees x
  text : SameText (spell tokens) pieces
  shows : shows pieces = true

/-- The pieces are a phrase of a level, and it means `x`. -/
def IsPhrase (level : Level) (pieces : List Piece) (x : Formula) : Prop :=
  ∃ tokens y, Phrase level pieces x tokens y

theorem IsPhrase.shows {level : Level} {pieces : List Piece} {x : Formula}
    (h : IsPhrase level pieces x) : BoundSql.shows pieces = true := by
  obtain ⟨_, _, p⟩ := h
  exact p.shows

theorem IsPhrase.congr {level : Level} {pieces others : List Piece} {x : Formula}
    (h : IsPhrase level pieces x) (alike : SameText pieces others) : IsPhrase level others x := by
  obtain ⟨tokens, y, p⟩ := h
  exact ⟨tokens, y, p.reads, p.agrees, p.text.trans alike, alike.shows.trans p.shows⟩

theorem IsPhrase.agreeing {level : Level} {pieces : List Piece} {x z : Formula}
    (h : IsPhrase level pieces x) (alike : x.Agrees z) : IsPhrase level pieces z := by
  obtain ⟨tokens, y, p⟩ := h
  exact ⟨tokens, y, p.reads, p.agrees.trans alike, p.text, p.shows⟩

theorem IsPhrase.atom (t : Term) (visible : BoundSql.shows t.pieces = true) :
    IsPhrase .primary t.pieces (.atom t) := by
  have alone : spell [.atom t] = t.pieces := by simp [spell, Token.pieces]
  refine ⟨[.atom t], .atom t, .atom t, .refl _, ?_, visible⟩
  rw [alone]
  exact .refl _

theorem IsPhrase.constant (b : Bool) :
    IsPhrase .primary [.text (Text.boolText b)] (.constant b) := by
  refine ⟨[.constant b], .constant b, .constant b, .refl _, .refl _, ?_⟩
  cases b <;> decide

theorem IsPhrase.parens {pieces : List Piece} {x : Formula}
    (h : IsPhrase .disjunction pieces x) :
    IsPhrase .primary (.text "(" :: pieces ++ [.text ")"]) x := by
  obtain ⟨tokens, y, p⟩ := h
  have spelt : spell (.opening :: tokens ++ [.closing]) =
      [.text "("] ++ spell tokens ++ [.text ")"] := by
    simp [spell, Token.pieces]
  refine ⟨.opening :: tokens ++ [.closing], y, .parens p.reads, p.agrees, ?_, ?_⟩
  · rw [spelt]
    exact ((SameText.refl [.text "("]).append p.text).append (.refl _)
  · simp [BoundSql.shows, Piece.shows]

theorem IsPhrase.toNegation {pieces : List Piece} {x : Formula}
    (h : IsPhrase .primary pieces x) : IsPhrase .negation pieces x := by
  obtain ⟨tokens, y, p⟩ := h
  exact ⟨tokens, y, .primary p.reads, p.agrees, p.text, p.shows⟩

theorem IsPhrase.toConjunction {pieces : List Piece} {x : Formula}
    (h : IsPhrase .negation pieces x) : IsPhrase .conjunction pieces x := by
  obtain ⟨tokens, y, p⟩ := h
  exact ⟨tokens, y, .negation p.reads, p.agrees, p.text, p.shows⟩

theorem IsPhrase.toDisjunction {pieces : List Piece} {x : Formula}
    (h : IsPhrase .conjunction pieces x) : IsPhrase .disjunction pieces x := by
  obtain ⟨tokens, y, p⟩ := h
  exact ⟨tokens, y, .conjunction p.reads, p.agrees, p.text, p.shows⟩

theorem IsPhrase.not {pieces : List Piece} {x : Formula} (h : IsPhrase .primary pieces x) :
    IsPhrase .negation (.text "not " :: pieces) (.not x) := by
  obtain ⟨tokens, y, p⟩ := h
  refine ⟨.not :: tokens, .not y, .not (.primary p.reads), p.agrees.not, ?_, rfl⟩
  exact (SameText.refl [.text "not "]).append p.text

theorem Phrase.join {level other : Level} {first second : List Piece} {x y v w : Formula}
    {tokens others : List Token} (p : Phrase level first x tokens v)
    (q : Phrase other second y others w) (word : Token) (s : String)
    (spelt : word.pieces = [.text s]) :
    SameText (spell (tokens ++ word :: others)) (first ++ .text s :: second) ∧
      BoundSql.shows (first ++ .text s :: second) = true := by
  have whole : spell (tokens ++ word :: others) = spell tokens ++ ([.text s] ++ spell others) := by
    simp [spell, spelt]
  refine ⟨?_, ?_⟩
  · rw [whole]
    exact p.text.append ((SameText.refl [.text s]).append q.text)
  · have seen := p.shows
    rw [BoundSql.shows] at seen
    simp [BoundSql.shows, seen]

theorem IsPhrase.and {first second : List Piece} {x y : Formula}
    (h : IsPhrase .conjunction first x) (l : IsPhrase .primary second y) :
    IsPhrase .conjunction (first ++ .text " and " :: second) (.and x y) := by
  obtain ⟨tokens, v, p⟩ := h
  obtain ⟨others, w, q⟩ := l
  obtain ⟨text, seen⟩ := p.join q .and " and " rfl
  exact ⟨tokens ++ .and :: others, .and v w, .and p.reads (.primary q.reads),
    p.agrees.and q.agrees, text, seen⟩

theorem IsPhrase.or {first second : List Piece} {x y : Formula}
    (h : IsPhrase .disjunction first x) (l : IsPhrase .conjunction second y) :
    IsPhrase .disjunction (first ++ .text " or " :: second) (.or x y) := by
  obtain ⟨tokens, v, p⟩ := h
  obtain ⟨others, w, q⟩ := l
  obtain ⟨text, seen⟩ := p.join q .or " or " rfl
  exact ⟨tokens ++ .or :: others, .or v w, .or p.reads q.reads, p.agrees.or q.agrees, text, seen⟩

end BoundSql
