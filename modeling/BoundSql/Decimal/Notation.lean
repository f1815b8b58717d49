import BoundSql.Decimal.Shortest

/-! # Writing decimals

The digits of a floating point value are always the shortest that read back.
What differs between the places that write one is the `Style`: whether a whole
number shows `.0`, which exponents are written with an `e`, whether those above
zero show a plus sign, and which way a tie goes. -/
set_option autoImplicit false
namespace BoundSql.Decimal

/-- How decimals are laid out.  `positional` gives the least and the greatest
exponent of the leading digit that are written without an `e`; without it all
are. -/
structure Style where
  tie : Tie
  wholePoint : Bool
  positional : Option (Int × Int)
  plusSign : Bool

/-- Query text and bound values: never an exponent, whole numbers bare. -/
def Style.plain : Style := ⟨.larger, false, none, false⟩

/-- JSON documents: an exponent from `1e+16` upwards and below `1e-5`. -/
def Style.json : Style := ⟨.even, true, some (-5, 15), true⟩

/-- Values shown for inspection: an exponent from `1e16` upwards and below `1e-4`. -/
def Style.inspected : Style := ⟨.larger, true, some (-4, 15), false⟩

private def zeros (n : Nat) : String := String.ofList (List.replicate n '0')

def Number.positional (d : Number) (wholePoint : Bool) : String :=
  let digits := Nat.toDigits 10 d.digits
  if 0 ≤ d.exponent then
    String.ofList digits ++ (if d.digits = 0 then "" else zeros d.exponent.toNat)
      ++ (if wholePoint then ".0" else "")
  else
    let point : Int := digits.length + d.exponent
    if 0 < point then
      String.ofList (digits.take point.toNat) ++ "." ++ String.ofList (digits.drop point.toNat)
    else "0." ++ zeros (-point).toNat ++ String.ofList digits

def Number.scientific (d : Number) (plusSign : Bool) : String :=
  let digits := Nat.toDigits 10 d.digits
  let exponent : Int := digits.length + d.exponent - 1
  let tail := digits.drop 1
  String.ofList (digits.take 1) ++ (if tail.isEmpty then "" else "." ++ String.ofList tail)
    ++ (if plusSign && decide (0 < exponent) then "e+" else "e") ++ exponent.repr

/-- Positional or with an exponent, as the style says for this size. -/
def Number.render (style : Style) (d : Number) : String :=
  let exponent : Int := (Nat.toDigits 10 d.digits).length + d.exponent - 1
  match style.positional with
  | none => d.positional style.wholePoint
  | some (least, greatest) =>
    if d.digits = 0 ∨ (least ≤ exponent ∧ exponent ≤ greatest) then d.positional style.wholePoint
    else d.scientific style.plusSign

def Binary.render (style : Style) : Binary → String
  | .nan => "NaN"
  | .infinite negative => if negative then "-inf" else "inf"
  | .finite negative mantissa exponent narrow =>
    let magnitude : Number :=
      if mantissa = 0 then ⟨0, 0⟩ else shortest style.tie mantissa exponent narrow
    (if negative then "-" else "") ++ magnitude.render style

def Float4.render (style : Style) (x : Float4) : String := x.decode.render style

def Float8.render (style : Style) (x : Float8) : String := x.decode.render style

def isNumeralChar (c : Char) : Bool := c.isAlphanum || "+-.".toList.contains c

def IsNumeral (s : String) : Prop := ∀ c ∈ s.toList, isNumeralChar c = true

instance (s : String) : Decidable (IsNumeral s) :=
  decidable_of_iff (s.toList.all isNumeralChar = true) List.all_eq_true

theorem IsNumeral.append {s t : String} (h : IsNumeral s) (k : IsNumeral t) :
    IsNumeral (s ++ t) := by
  intro c member
  rw [String.toList_append, List.mem_append] at member
  exact member.elim (h c) (k c)

theorem IsNumeral.ofDigits {digits : List Char} (h : ∀ c ∈ digits, c.isDigit = true) :
    IsNumeral (String.ofList digits) := by
  intro c member
  rw [String.toList_ofList] at member
  simp [isNumeralChar, Char.isAlphanum, h c member]

theorem isDigit_toDigits {n : Nat} : ∀ c ∈ Nat.toDigits 10 n, c.isDigit = true := fun _ member =>
  Nat.isDigit_of_mem_toDigits (by decide) (by decide) member

theorem isNumeral_zeros (n : Nat) : IsNumeral (zeros n) :=
  .ofDigits fun c member => by rw [List.eq_of_mem_replicate member]; rfl

theorem isNumeral_intRepr (n : Int) : IsNumeral n.repr := by
  have digits (m : Nat) : IsNumeral m.repr := by
    intro c member
    rw [Nat.toList_repr] at member
    simp [isNumeralChar, Char.isAlphanum, isDigit_toDigits c member]
  cases n with
  | ofNat m => exact digits m
  | negSucc m => exact IsNumeral.append (s := "-") (by decide) (digits (m + 1))

theorem Number.isNumeral_positional (d : Number) (wholePoint : Bool) :
    IsNumeral (d.positional wholePoint) := by
  have digits : IsNumeral (String.ofList (Nat.toDigits 10 d.digits)) := .ofDigits isDigit_toDigits
  have whole : IsNumeral (if wholePoint then ".0" else "") := by cases wholePoint <;> decide
  unfold Number.positional
  dsimp only
  split
  next =>
    refine (digits.append ?_).append whole
    split
    · decide
    · exact isNumeral_zeros _
  next =>
    split
    next =>
      refine (IsNumeral.append ?_ (t := ".") (by decide)).append ?_
      · exact .ofDigits fun c member => isDigit_toDigits c (List.mem_of_mem_take member)
      · exact .ofDigits fun c member => isDigit_toDigits c (List.mem_of_mem_drop member)
    next => exact (IsNumeral.append (s := "0.") (by decide) (isNumeral_zeros _)).append digits

theorem Number.isNumeral_scientific (d : Number) (plusSign : Bool) :
    IsNumeral (d.scientific plusSign) := by
  unfold Number.scientific
  refine ((IsNumeral.append (.ofDigits ?_) ?_).append ?_).append (isNumeral_intRepr _)
  · exact fun c member => isDigit_toDigits c (List.mem_of_mem_take member)
  · split
    · decide
    · refine IsNumeral.append (s := ".") (by decide) (.ofDigits ?_)
      exact fun c member => isDigit_toDigits c (List.mem_of_mem_drop member)
  · split <;> decide

theorem Number.isNumeral_render (style : Style) (d : Number) : IsNumeral (d.render style) := by
  unfold Number.render
  dsimp only
  split
  next => exact d.isNumeral_positional _
  next =>
    split
    next => exact d.isNumeral_positional _
    next => exact d.isNumeral_scientific _

theorem Binary.isNumeral_render (style : Style) (x : Binary) : IsNumeral (x.render style) := by
  cases x with
  | nan =>
    rw [render]
    decide
  | infinite negative =>
    rw [render]
    cases negative <;> decide
  | finite negative mantissa exponent narrow =>
    have sign : IsNumeral (if negative then "-" else "") := by cases negative <;> decide
    exact sign.append (Number.isNumeral_render style _)

end BoundSql.Decimal
