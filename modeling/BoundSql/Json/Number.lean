import BoundSql.Decimal.Reading
import BoundSql.Json

/-! # Numbers in JSON documents

A whole number of up to sixty-four bits stays whole.  Any other is read as a
decimal: one with a point or an exponent, one that is too long, and zero with a
minus sign.  Of a long row of digits those count that come first and make a number
of sixty-four bits. -/
set_option autoImplicit false
namespace BoundSql

structure WrittenNumber where
  negative : Bool
  whole : List Char
  fraction : Option (List Char)
  exponent : Option Int

def digits? (s : List Char) : Option (List Char) :=
  if s.isEmpty || !s.all Char.isDigit then none else some s

def exponent? (s : List Char) : Option Int :=
  match s with
  | '-' :: rest => (digits? rest).map fun digits => -(Nat.ofDigitChars 10 digits 0 : Int)
  | '+' :: rest => (digits? rest).map fun digits => Nat.ofDigitChars 10 digits 0
  | _ => (digits? s).map fun digits => Nat.ofDigitChars 10 digits 0

/-- Takes the exponent off the end and the fraction before it. -/
def WrittenNumber.ofUnsigned? (negative : Bool) (s : List Char) : Option WrittenNumber := do
  let isMark := fun c => c = 'e' || c = 'E'
  let exponent ← match s.dropWhile fun c => !isMark c with
    | [] => pure none
    | _ :: rest => some <$> exponent? rest
  let significand := s.takeWhile fun c => !isMark c
  let fraction ← match significand.dropWhile (· ≠ '.') with
    | [] => pure none
    | _ :: rest => some <$> digits? rest
  let whole ← digits? (significand.takeWhile (· ≠ '.'))
  if whole.head? = some '0' ∧ whole ≠ ['0'] then none
  pure { negative, whole, fraction, exponent }

def WrittenNumber.ofText? (s : List Char) : Option WrittenNumber :=
  match s with
  | '-' :: rest => WrittenNumber.ofUnsigned? true rest
  | _ => WrittenNumber.ofUnsigned? false s

/-- Appends digits to a number as long as it stays below `2 ^ 64`; answers the
number and the digits left over. -/
def appendDigits (n : Nat) : List Char → Nat × List Char
  | [] => (n, [])
  | c :: rest =>
    let longer := 10 * n + (c.toNat - '0'.toNat)
    if longer < 18446744073709551616 then appendDigits longer rest else (n, c :: rest)

/-- The decimal that counts.  A digit left over before the point is a place more, one
taken up after it a place less. -/
def WrittenNumber.decimal (w : WrittenNumber) : Decimal.Number :=
  let fraction := w.fraction.getD []
  let (digits, left) := appendDigits 0 w.whole
  let (digits, unread) := appendDigits digits fraction
  ⟨digits, left.length - (fraction.length - unread.length : Nat) + w.exponent.getD 0⟩

def WrittenNumber.int? (w : WrittenNumber) : Option Int :=
  let size := Nat.ofDigitChars 10 w.whole 0
  if w.fraction.isSome || w.exponent.isSome then none
  else if w.negative then
    if 0 < size ∧ size ≤ 9223372036854775808 then some (-(size : Int)) else none
  else if size < 18446744073709551616 then some size
  else none

/-- The value of a number in a document; there is none for a text of another form, or one
that is too large. -/
def Json.number? (text : List Char) : Option Json := do
  let w ← WrittenNumber.ofText? text
  match w.int? with
  | some n => some (.int n)
  | none =>
    let size ← w.decimal.read?
    some (.float ⟨(if w.negative then -size else size).toBits⟩)

end BoundSql
