import BoundSql.Query.Compile

/-! # Pieces of a query

A list of terms read without any counter is a row of pieces: literal texts, and
slots that wait for a placeholder.  `layOut` flattens the terms, `number` gives
the slots their numbers from left to right, and `compile_two_phases` says that
compiling is the one after the other.  No value is lost on the way, since a child
that is dropped from its list has no slot. -/
set_option autoImplicit false
namespace BoundSql

/-! ## First phase: flattening -/

inductive Piece
  | text (s : String)
  | slot (v : Value)

/-- A slot always shows in the text, a text where it is not empty. -/
def Piece.shows : Piece → Bool
  | .text s => !s.isEmpty
  | .slot _ => true

def shows (pieces : List Piece) : Bool := pieces.any Piece.shows

/-- The children of a list with its separator between them.  Those without a
slot and without text are dropped. -/
def joinPieces (separator : String) (children : List (List Piece)) : List Piece :=
  [Piece.text separator].intercalate (children.filter shows)

/-- Parentheses behind a leading word; nothing at all around nothing. -/
def enclosedPieces (lead : String) (inner : List Piece) : List Piece :=
  if shows inner then .text (lead ++ "(") :: inner ++ [.text ")"] else []

def Quantifier.aroundPieces (q : Quantifier) (inner : List Piece) : List Piece :=
  .text (q.text ++ "(") :: inner ++ [.text ")"]

/-- A literal directly inside `any` or `all` is a slot, save null. -/
def Literal.payloadPiece : Literal → Piece
  | .null => .text "null"
  | .bool b => .slot (.bool b)
  | .int2 n => .slot (.int2 n)
  | .int4 n => .slot (.int4 n)
  | .int8 n => .slot (.int8 n)
  | .float4 x => .slot (.float4 x)
  | .float8 x => .slot (.float8 x)
  | .text s => .slot (.text s)
  | .timestamp t => .slot (.timestamptz t)
  | .date d => .slot (.date d)

mutual

def Term.pieces : Term → List Piece
  | .literal l => [.text l.render]
  | .unbound l => [.text l.render]
  | .bound v => [.slot v]
  | .quantified q (.literal l) => q.aroundPieces [l.payloadPiece]
  | .quantified q payload => q.aroundPieces payload.pieces
  | .default => [.text "default"]
  | .group separator items => joinPieces separator (Term.piecesEach items)
  | .paren lead separator items =>
    enclosedPieces lead (joinPieces separator (Term.piecesEach items))
  | .nested items => joinPieces " " (Term.piecesEach items)

def Term.piecesEach : List Term → List (List Piece)
  | [] => []
  | t :: rest => t.pieces :: Term.piecesEach rest

end

theorem Term.piecesEach_append (first second : List Term) :
    Term.piecesEach (first ++ second) = Term.piecesEach first ++ Term.piecesEach second := by
  induction first with
  | nil => rfl
  | cons t rest ih => rw [List.cons_append, piecesEach, piecesEach, ih, List.cons_append]

/-- What stands in `any` or `all` is laid out like a classified value. -/
theorem Term.pieces_quantified (q : Quantifier) (payload : Term) :
    (Term.quantified q payload).pieces = q.aroundPieces payload.arg.pieces := by
  cases payload with
  | literal l => cases l <;> rfl
  | _ => rfl

theorem Literal.exists_slot (l : Literal) (notNull : l ≠ .null) :
    ∃ v, l.arg = .bound v ∧ l.payloadPiece = .slot v := by
  cases l with
  | null => exact absurd rfl notNull
  | _ => exact ⟨_, rfl, rfl⟩

theorem Term.literal_or_arg_eq (t : Term) : (∃ l, t = .literal l) ∨ t.arg = t := by
  cases t with
  | literal l => exact Or.inl ⟨l, rfl⟩
  | _ => exact Or.inr rfl

/-- The pieces of the terms of a whole query. -/
def layOut (terms : List Term) : List Piece := joinPieces " " (Term.piecesEach terms)

/-! ## Second phase: numbering -/

inductive Fragment
  | text (s : String)
  | numbered (v : Value) (n : Nat)

def number : Nat → List Piece → List Fragment
  | _, [] => []
  | n, .text s :: rest => .text s :: number n rest
  | n, .slot v :: rest => .numbered v n :: number (n + 1) rest

def Fragment.write : Fragment → String
  | .text s => s
  | .numbered _ n => placeholder n

def writeFragments (fragments : List Fragment) : String :=
  String.join (fragments.map Fragment.write)

def placeholders (fragments : List Fragment) : List (Value × Nat) :=
  fragments.filterMap fun
    | .text _ => none
    | .numbered v n => some (v, n)

def slotValues (pieces : List Piece) : List Value :=
  pieces.filterMap fun
    | .text _ => none
    | .slot v => some v

/-- The text of pieces whose first slot has the number `n`. -/
def textFrom (n : Nat) (pieces : List Piece) : String := writeFragments (number n pieces)

def assemble (pieces : List Piece) : Query := ⟨textFrom 1 pieces, slotValues pieces⟩

section Numbering
variable (n : Nat)

@[simp]
theorem slotValues_nil : slotValues [] = [] := rfl

@[simp]
theorem slotValues_text (s : String) (rest : List Piece) :
    slotValues (.text s :: rest) = slotValues rest := rfl

@[simp]
theorem slotValues_slot (v : Value) (rest : List Piece) :
    slotValues (.slot v :: rest) = v :: slotValues rest := rfl

@[simp]
theorem slotValues_append (first second : List Piece) :
    slotValues (first ++ second) = slotValues first ++ slotValues second := by
  simp [slotValues]

@[simp]
theorem textFrom_nil : textFrom n [] = "" := by simp [textFrom, number, writeFragments]

@[simp]
theorem textFrom_text (s : String) (rest : List Piece) :
    textFrom n (.text s :: rest) = s ++ textFrom n rest := by
  simp [textFrom, number, writeFragments, Fragment.write]

@[simp]
theorem textFrom_slot (v : Value) (rest : List Piece) :
    textFrom n (.slot v :: rest) = placeholder n ++ textFrom (n + 1) rest := by
  simp [textFrom, number, writeFragments, Fragment.write]

/-- The second part starts with the number behind the slots of the first. -/
theorem textFrom_append (first second : List Piece) :
    textFrom n (first ++ second) =
      textFrom n first ++ textFrom (n + (slotValues first).length) second := by
  induction first generalizing n with
  | nil => simp
  | cons p rest ih =>
    cases p with
    | text s => simp [ih, String.append_assoc]
    | slot v =>
      have shift : n + 1 + (slotValues rest).length = n + ((slotValues rest).length + 1) := by
        omega
      simp [ih, String.append_assoc, shift]

/-- The placeholders carry consecutive numbers, each with the value of its slot. -/
theorem placeholders_number (pieces : List Piece) :
    placeholders (number n pieces) = (slotValues pieces).zipIdx n := by
  induction pieces generalizing n with
  | nil => rfl
  | cons p rest ih =>
    cases p with
    | text s => exact ih n
    | slot v =>
      have later := ih (n + 1)
      simp only [placeholders] at later
      simp [number, placeholders, later]

theorem placeholder_toList : (placeholder n).toList = '$' :: Nat.toDigits 10 n := by
  simp [placeholder, Nat.toList_repr]

theorem placeholder_ne_empty : placeholder n ≠ "" := by
  intro h
  have chars := placeholder_toList n
  rw [h] at chars
  cases chars

/-- Pieces show exactly where their text is not empty. -/
theorem textFrom_eq_empty_iff (pieces : List Piece) :
    textFrom n pieces = "" ↔ shows pieces = false := by
  induction pieces generalizing n with
  | nil => simp [shows]
  | cons p rest ih =>
    have later : ∀ k, textFrom k rest = "" ↔ rest.any Piece.shows = false := ih
    cases p with
    | text s => simp [shows, Piece.shows, String.append_eq_empty_iff, later]
    | slot v => simp [shows, Piece.shows, String.append_eq_empty_iff, placeholder_ne_empty]

theorem isEmpty_textFrom (pieces : List Piece) :
    (textFrom n pieces).isEmpty = !shows pieces := by
  have iff := textFrom_eq_empty_iff n pieces
  cases h : shows pieces with
  | false => simp [iff.mpr h]
  | true =>
    have written : textFrom n pieces ≠ "" := by
      intro e
      rw [iff.mp e] at h
      exact Bool.noConfusion h
    simpa using written

end Numbering

/-- What does not show has no slot. -/
theorem slotValues_of_not_shows (pieces : List Piece) (h : shows pieces = false) :
    slotValues pieces = [] := by
  induction pieces with
  | nil => rfl
  | cons p rest ih =>
    cases p with
    | text s =>
      simp only [shows, List.any_cons, Bool.or_eq_false_iff] at h
      exact ih h.2
    | slot v => simp [shows, Piece.shows] at h

/-! ## Joined lists -/

section Joining
variable (separator : String)

@[simp]
theorem joinPieces_nil : joinPieces separator [] = [] := rfl

theorem joinPieces_cons_hidden (c : List Piece) (children : List (List Piece))
    (h : shows c = false) :
    joinPieces separator (c :: children) = joinPieces separator children := by
  simp [joinPieces, h]

theorem joinPieces_cons_last (c : List Piece) (children : List (List Piece))
    (h : shows c = true) (last : children.filter shows = []) :
    joinPieces separator (c :: children) = c := by
  simp [joinPieces, h, last]

theorem joinPieces_cons_more (c : List Piece) (children : List (List Piece))
    (h : shows c = true) (more : children.filter shows ≠ []) :
    joinPieces separator (c :: children) =
      c ++ .text separator :: joinPieces separator children := by
  simp [joinPieces, h, List.intercalate_cons_of_ne_nil more]

/-- Dropping children and putting separators between them loses no value. -/
theorem slotValues_joinPieces (children : List (List Piece)) :
    slotValues (joinPieces separator children) = children.flatMap slotValues := by
  induction children with
  | nil => rfl
  | cons c rest ih =>
    rw [List.flatMap_cons]
    cases h : shows c with
    | false =>
      rw [joinPieces_cons_hidden separator c rest h, slotValues_of_not_shows c h, ih]
      rfl
    | true =>
      by_cases last : rest.filter shows = []
      · have nothing : joinPieces separator rest = [] := by simp [joinPieces, last]
        rw [nothing] at ih
        rw [joinPieces_cons_last separator c rest h last, ← ih]
        simp
      · rw [joinPieces_cons_more separator c rest h last, slotValues_append, slotValues_text, ih]

end Joining

/-! ## Compiling is flattening and numbering -/

theorem joinTexts_cons_last (separator s : String) (texts : List String) (h : s ≠ "")
    (last : (texts.filter fun t => !t.isEmpty) = []) : joinTexts separator (s :: texts) = s := by
  simp [joinTexts, h, last]

theorem joinTexts_cons_more (separator s : String) (texts : List String) (h : s ≠ "")
    (more : (texts.filter fun t => !t.isEmpty) ≠ []) :
    joinTexts separator (s :: texts) = s ++ separator ++ joinTexts separator texts := by
  simp [joinTexts, h, String.intercalate_cons_of_ne_nil more]

def textsFrom : Nat → List (List Piece) → List String
  | _, [] => []
  | n, c :: rest => textFrom n c :: textsFrom (n + (slotValues c).length) rest

theorem filter_textsFrom (n : Nat) (children : List (List Piece)) :
    ((textsFrom n children).filter fun s => !s.isEmpty) = [] ↔ children.filter shows = [] := by
  induction children generalizing n with
  | nil => simp [textsFrom]
  | cons c rest ih =>
    cases h : shows c with
    | false => simpa [textsFrom, isEmpty_textFrom, h] using ih _
    | true => simp [textsFrom, isEmpty_textFrom, h]

/-- Joining the texts of children gives the text of the joined children. -/
theorem joinTexts_textsFrom (separator : String) (n : Nat) (children : List (List Piece)) :
    joinTexts separator (textsFrom n children) = textFrom n (joinPieces separator children) := by
  induction children generalizing n with
  | nil => simp [textsFrom]
  | cons c rest ih =>
    have later := ih (n + (slotValues c).length)
    cases h : shows c with
    | false =>
      have text : textFrom n c = "" := (textFrom_eq_empty_iff n c).mpr h
      have noSlots := slotValues_of_not_shows c h
      rw [noSlots] at later
      rw [textsFrom, noSlots, text, joinTexts_cons_empty, joinPieces_cons_hidden separator c rest h]
      exact later
    | true =>
      have written : textFrom n c ≠ "" := by simp [textFrom_eq_empty_iff, h]
      by_cases last : rest.filter shows = []
      · have lastTexts := (filter_textsFrom (n + (slotValues c).length) rest).mpr last
        rw [joinPieces_cons_last separator c rest h last, textsFrom,
          joinTexts_cons_last separator _ _ written lastTexts]
      · have moreTexts := mt (filter_textsFrom (n + (slotValues c).length) rest).mp last
        rw [joinPieces_cons_more separator c rest h last, textFrom_append, textFrom_text, ← later,
          textsFrom, joinTexts_cons_more separator _ _ written moreTexts, String.append_assoc]

theorem enclosed_textFrom (lead : String) (n : Nat) (inner : List Piece) :
    enclosed lead (textFrom n inner) = textFrom n (enclosedPieces lead inner) := by
  rw [enclosed, isEmpty_textFrom, enclosedPieces]
  cases h : shows inner with
  | false => simp
  | true => simp [textFrom_append, String.append_assoc]

theorem Quantifier.around_textFrom (q : Quantifier) (n : Nat) (inner : List Piece) :
    q.around (textFrom n inner) = textFrom n (q.aroundPieces inner) := by
  simp [around, aroundPieces, textFrom_append, String.append_assoc]

/-- Writing behind some arguments numbers the slots behind them and adds their values. -/
structure WritesPieces (pieces : List Piece) (args : Arguments) (written : String × Arguments) :
    Prop where
  text : written.1 = textFrom (args.toList.length + 1) pieces
  values : written.2.toList = args.toList ++ slotValues pieces

theorem Value.write_writes (v : Value) (args : Arguments) :
    WritesPieces [.slot v] args (v.write args) :=
  ⟨by simp [write], by simp [write]⟩

@[simp]
theorem slotValues_enclosedPieces (lead : String) (inner : List Piece) :
    slotValues (enclosedPieces lead inner) = slotValues inner := by
  rw [enclosedPieces]
  cases h : shows inner with
  | false => rw [slotValues_of_not_shows inner h]; rfl
  | true => simp

@[simp]
theorem Quantifier.slotValues_aroundPieces (q : Quantifier) (inner : List Piece) :
    slotValues (q.aroundPieces inner) = slotValues inner := by
  simp [aroundPieces]

theorem WritesPieces.around {pieces : List Piece} {args : Arguments}
    {written : String × Arguments} (w : WritesPieces pieces args written) (q : Quantifier) :
    WritesPieces (q.aroundPieces pieces) args (q.around written.1, written.2) :=
  ⟨by rw [w.text, q.around_textFrom], by rw [w.values, q.slotValues_aroundPieces]⟩

theorem Literal.arg_writes (l : Literal) (args : Arguments) :
    WritesPieces l.arg.pieces args (l.arg.write args) := by
  rw [arg]
  cases h : l.toValue? with
  | none => exact ⟨by simp [Term.write, Term.pieces], by simp [Term.write, Term.pieces]⟩
  | some v => exact v.write_writes args

mutual

theorem Term.write_writes (t : Term) (args : Arguments) :
    WritesPieces t.pieces args (t.write args) := by
  cases t with
  | literal l => exact ⟨by simp [write, pieces], by simp [write, pieces]⟩
  | unbound l => exact ⟨by simp [write, pieces], by simp [write, pieces]⟩
  | bound v => exact v.write_writes args
  | quantified q payload =>
    rw [Term.write_quantified, Term.pieces_quantified]
    have inner : WritesPieces payload.arg.pieces args (payload.arg.write args) := by
      rcases payload.literal_or_arg_eq with ⟨l, rfl⟩ | fixed
      · exact l.arg_writes args
      · rw [fixed]
        exact Term.write_writes payload args
    exact inner.around q
  | default => exact ⟨by simp [write, pieces], by simp [write, pieces]⟩
  | group separator items =>
    obtain ⟨texts, values⟩ := Term.writeEach_writes items args
    exact ⟨by rw [write, texts, joinTexts_textsFrom, pieces],
      by rw [write, values, pieces, slotValues_joinPieces]⟩
  | paren lead separator items =>
    obtain ⟨texts, values⟩ := Term.writeEach_writes items args
    exact ⟨by rw [write, texts, joinTexts_textsFrom, enclosed_textFrom, pieces],
      by rw [write, values, pieces, slotValues_enclosedPieces, slotValues_joinPieces]⟩
  | nested items =>
    obtain ⟨texts, values⟩ := Term.writeEach_writes items args
    exact ⟨by rw [write, texts, joinTexts_textsFrom, pieces],
      by rw [write, values, pieces, slotValues_joinPieces]⟩

theorem Term.writeEach_writes (ts : List Term) (args : Arguments) :
    (Term.writeEach ts args).1 = textsFrom (args.toList.length + 1) (Term.piecesEach ts) ∧
      (Term.writeEach ts args).2.toList =
        args.toList ++ (Term.piecesEach ts).flatMap slotValues := by
  cases ts with
  | nil => simp [Term.writeEach, Term.piecesEach, textsFrom]
  | cons t rest =>
    have first := Term.write_writes t args
    obtain ⟨texts, values⟩ := Term.writeEach_writes rest (t.write args).2
    have behind : args.toList.length + (slotValues t.pieces).length + 1 =
        args.toList.length + 1 + (slotValues t.pieces).length := by omega
    rw [first.values, List.length_append, behind] at texts
    rw [first.values, List.append_assoc] at values
    refine ⟨?_, ?_⟩
    · rw [Term.writeEach, Term.piecesEach, textsFrom, ← texts, ← first.text]
    · rw [Term.writeEach, Term.piecesEach, List.flatMap_cons, ← values]

end

theorem compile_eq_assemble (terms : List Term) : compile terms = assemble (layOut terms) := by
  obtain ⟨texts, values⟩ := Term.writeEach_writes terms .empty
  rw [Arguments.toList_empty] at texts values
  rw [compile, texts, values, joinTexts_textsFrom, assemble, layOut, slotValues_joinPieces]
  rfl

/-! ## The values of a term -/

mutual

/-- The values that a term binds: one for each bound value, and one for each
literal but null that stands directly in `any` or `all`. -/
def Term.slots : Term → List Value
  | .literal _ | .unbound _ | .default => []
  | .bound v => [v]
  | .quantified _ (.literal l) => slotValues [l.payloadPiece]
  | .quantified _ payload => payload.slots
  | .group _ items | .paren _ _ items | .nested items => Term.slotsEach items

def Term.slotsEach : List Term → List Value
  | [] => []
  | t :: rest => t.slots ++ Term.slotsEach rest

end

theorem Term.slotsEach_eq_flatMap (ts : List Term) : Term.slotsEach ts = ts.flatMap Term.slots := by
  induction ts with
  | nil => rfl
  | cons t rest ih => rw [slotsEach, ih, List.flatMap_cons]

/-- The values of what stands in `any` or `all` are those of its classified form. -/
theorem Term.slots_quantified (q : Quantifier) (payload : Term) :
    (Term.quantified q payload).slots = payload.arg.slots := by
  cases payload with
  | literal l => cases l <;> rfl
  | _ => rfl

theorem Literal.slotValues_arg (l : Literal) : slotValues l.arg.pieces = l.arg.slots := by
  cases l <;> rfl

mutual

theorem Term.slotValues_pieces (t : Term) : slotValues t.pieces = t.slots := by
  cases t with
  | literal l => rfl
  | unbound l => rfl
  | bound v => rfl
  | quantified q payload =>
    rw [Term.pieces_quantified, q.slotValues_aroundPieces, Term.slots_quantified]
    rcases payload.literal_or_arg_eq with ⟨l, rfl⟩ | fixed
    · exact l.slotValues_arg
    · rw [fixed]
      exact Term.slotValues_pieces payload
  | default => rfl
  | group separator items =>
    rw [pieces, slotValues_joinPieces, Term.slotValues_piecesEach items, slots]
  | paren lead separator items =>
    rw [pieces, slotValues_enclosedPieces, slotValues_joinPieces,
      Term.slotValues_piecesEach items, slots]
  | nested items =>
    rw [pieces, slotValues_joinPieces, Term.slotValues_piecesEach items, slots]

theorem Term.slotValues_piecesEach (ts : List Term) :
    (Term.piecesEach ts).flatMap slotValues = Term.slotsEach ts := by
  cases ts with
  | nil => rfl
  | cons t rest =>
    rw [Term.piecesEach, List.flatMap_cons, Term.slotValues_pieces t,
      Term.slotValues_piecesEach rest, Term.slotsEach]

end

/-- The arguments of a query are the values of its terms, from left to right. -/
theorem params_compile (terms : List Term) :
    (compile terms).params = terms.flatMap Term.slots := by
  rw [compile_eq_assemble, assemble, layOut, slotValues_joinPieces, Term.slotValues_piecesEach,
    Term.slotsEach_eq_flatMap]

/-- Compiling is flattening and then numbering.  The placeholders of the text are
`$1`, `$2` and so on, each for the argument at its place, and the arguments are
the values of the terms, none lost, doubled or moved. -/
theorem compile_two_phases (terms : List Term) :
    compile terms = assemble (layOut terms) ∧
      placeholders (number 1 (layOut terms)) = (compile terms).params.zipIdx 1 ∧
      (compile terms).params = terms.flatMap Term.slots := by
  refine ⟨compile_eq_assemble terms, ?_, params_compile terms⟩
  rw [compile_eq_assemble, placeholders_number]
  rfl

end BoundSql
