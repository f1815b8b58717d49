import BoundSql.Proofs.PieceLaws

/-! # Reading placeholders back

The numbers of the placeholders can be read off the text of a query alone, where no
other part of it brings in a dollar sign.  Behind a placeholder the text ends, or a
closing parenthesis or a separator stands, so a separator must not be empty and must
not go on with a digit. -/
set_option autoImplicit false
namespace BoundSql

/-- The runs of digits behind dollar signs, each as long as possible.  There is no dollar
sign among digits, so the scan may go on right behind the sign. -/
def digitRuns : List Char → List (List Char)
  | [] => []
  | c :: rest =>
    if c = '$' ∧ rest.takeWhile Char.isDigit ≠ [] then
      rest.takeWhile Char.isDigit :: digitRuns rest
    else digitRuns rest

def scannedNumbers (sql : String) : List Nat :=
  (digitRuns sql.toList).map fun digits => Nat.ofDigitChars 10 digits 0

theorem digitRuns_append {s : List Char} (plain : '$' ∉ s) (rest : List Char) :
    digitRuns (s ++ rest) = digitRuns rest := by
  induction s with
  | nil => rfl
  | cons c s ih =>
    rw [List.mem_cons, not_or] at plain
    have other : ¬ c = '$' := fun equal => plain.1 equal.symm
    rw [List.cons_append, digitRuns, if_neg fun h => other h.1, ih plain.2]

/-- The text is empty or begins with no digit, so a number in front of it ends there. -/
def EndsNumber (s : List Char) : Prop := ∀ c, s.head? = some c → c.isDigit = false

theorem takeWhile_digits {digits rest : List Char} (all : ∀ c ∈ digits, c.isDigit = true)
    (stop : EndsNumber rest) : (digits ++ rest).takeWhile Char.isDigit = digits := by
  rw [List.takeWhile_append_of_pos all]
  cases rest with
  | nil => simp
  | cons c rest => simp [stop c rfl]

theorem digitRuns_placeholder (n : Nat) {rest : List Char} (stop : EndsNumber rest) :
    digitRuns ((placeholder n).toList ++ rest) = Nat.toDigits 10 n :: digitRuns rest := by
  have digits : ∀ c ∈ Nat.toDigits 10 n, c.isDigit = true := fun c member =>
    Nat.isDigit_of_mem_toDigits (by decide) (by decide) member
  have plain : '$' ∉ Nat.toDigits 10 n := fun member =>
    absurd (digits '$' member) (by decide)
  rw [placeholder_toList, List.cons_append, digitRuns, takeWhile_digits digits stop,
    if_pos ⟨rfl, Nat.toDigits_ne_nil⟩, digitRuns_append plain]

def hasDollar (s : String) : Bool := s.toList.contains '$'

def beginsApart (s : String) : Bool := s.toList.head?.any fun c => !c.isDigit

theorem beginsApart_iff (s : String) :
    beginsApart s = true ↔ ∃ c rest, s.toList = c :: rest ∧ c.isDigit = false := by
  rw [beginsApart]
  cases s.toList with
  | nil => simp
  | cons c rest => simp

def apartWording : Wording where
  literal l := !hasDollar l.render
  separator s := !hasDollar s && beginsApart s
  lead s := !hasDollar s

/-- Every literal that is written, every separator and every leading word is free of
dollar signs, and no separator could go on with the number of a placeholder. -/
def Term.keepApart (ts : List Term) : Bool := Term.keepTo apartWording ts

def Parts : List Piece → Prop
  | [] => True
  | .text s :: _ => beginsApart s = true
  | .slot _ :: _ => False

/-- No text has a dollar sign, and every slot is parted from what follows. -/
def KeptApart : List Piece → Prop
  | [] => True
  | .text s :: rest => hasDollar s = false ∧ KeptApart rest
  | .slot _ :: rest => Parts rest ∧ KeptApart rest

theorem Parts.endsNumber (n : Nat) {pieces : List Piece} (h : Parts pieces) :
    EndsNumber (textFrom n pieces).toList := by
  match pieces with
  | [] => simp [EndsNumber]
  | .text s :: rest =>
    obtain ⟨c, tail, split, other⟩ := (beginsApart_iff s).mp h
    intro first begins
    rw [textFrom_text, String.toList_append, split] at begins
    obtain rfl : c = first := Option.some.inj begins
    exact other

theorem KeptApart.digitRuns (n : Nat) {pieces : List Piece} (h : KeptApart pieces) :
    digitRuns (textFrom n pieces).toList =
      (List.range' n (slotValues pieces).length).map (Nat.toDigits 10) := by
  induction pieces generalizing n with
  | nil => simp [BoundSql.digitRuns]
  | cons p rest ih =>
    cases p with
    | text s =>
      have plain : '$' ∉ s.toList := by simpa [hasDollar] using h.1
      rw [textFrom_text, String.toList_append, digitRuns_append plain, ih n h.2, slotValues_text]
    | slot v =>
      rw [textFrom_slot, String.toList_append, digitRuns_placeholder n (h.1.endsNumber (n + 1)),
        ih (n + 1) h.2, slotValues_slot, List.length_cons, List.range'_succ, List.map_cons]

theorem KeptApart.append {first second : List Piece} (h : KeptApart first)
    (k : KeptApart second) (parted : Parts second) : KeptApart (first ++ second) := by
  induction first with
  | nil => exact k
  | cons p rest ih =>
    cases p with
    | text s => exact ⟨h.1, ih h.2⟩
    | slot v =>
      refine ⟨?_, ih h.2⟩
      match rest with
      | [] => exact parted
      | .text s :: rest => exact h.1

theorem KeptApart.between {first second : List Piece} {s : String} (h : KeptApart first)
    (k : KeptApart second) (plain : hasDollar s = false) (parted : beginsApart s = true) :
    KeptApart (first ++ .text s :: second) :=
  h.append ⟨plain, k⟩ parted

theorem hasDollar_append (s t : String) : hasDollar (s ++ t) = (hasDollar s || hasDollar t) := by
  simp [hasDollar]

theorem KeptApart.bracketed {inner : List Piece} {opening : String} (h : KeptApart inner)
    (plain : hasDollar opening = false) : KeptApart (.text opening :: inner ++ [.text ")"]) :=
  ⟨plain, h.between trivial (by decide) (by decide)⟩

theorem keptApart_law : PieceLaw apartWording fun _ pieces => KeptApart pieces where
  blank := by decide
  null := by decide
  quantifier := by
    intro q
    cases q <;> decide
  nil := trivial
  slot := fun _ => ⟨trivial, trivial⟩
  default := ⟨by decide, trivial⟩
  literal := fun plain => ⟨by simpa [apartWording] using plain, trivial⟩
  hidden := fun _ _ others => others
  separated := by
    intro _ _ separator first second plain h k
    simp only [apartWording, Bool.and_eq_true, Bool.not_eq_true'] at plain
    exact h.between k plain.1 plain.2
  bracketed := by
    intro _ lead inner plain h
    refine h.bracketed ?_
    rw [hasDollar_append, show hasDollar lead = false by simpa [apartWording] using plain]
    decide

/-- A scan from the left finds the placeholders of a query by their whole numbers: one
for each argument, counted from one. -/
theorem placeholders_read_back (terms : List Term) (h : Term.keepApart terms = true) :
    digitRuns (compile terms).sql.toList =
        (List.range' 1 (compile terms).params.length).map (Nat.toDigits 10) ∧
      scannedNumbers (compile terms).sql = List.range' 1 (compile terms).params.length := by
  have apart : KeptApart (layOut terms) := keptApart_law.layOut h
  have runs := apart.digitRuns 1
  rw [compile_eq_assemble]
  refine ⟨runs, ?_⟩
  have read : ∀ n, Nat.ofDigitChars 10 (Nat.toDigits 10 n) 0 = n := fun n =>
    Nat.ofDigitChars_toDigits (by decide) (by decide)
  rw [scannedNumbers, assemble, runs, List.map_map]
  simp [Function.comp_def, read]

def manyValues : List Term :=
  [.word "values", .parenList (List.replicate 10 (.bound (.bool true))),
    .group ", 0" [.bound (.int4 7), .word "1", .quantified .any (.literal (.int4 8))]]

theorem placeholders_read_back_manyValues :
    Term.keepApart manyValues = true ∧
      (compile manyValues).sql =
        "values ($1, $2, $3, $4, $5, $6, $7, $8, $9, $10) $11, 01, 0any($12)" ∧
      scannedNumbers (compile manyValues).sql = [1, 2, 3, 4, 5, 6, 7, 8, 9, 10, 11, 12] := by
  have apart : Term.keepApart manyValues = true := by decide
  have count : (compile manyValues).params.length = 12 := rfl
  obtain ⟨-, read⟩ := placeholders_read_back manyValues apart
  rw [count] at read
  exact ⟨apart, by decide +kernel, read⟩

end BoundSql
