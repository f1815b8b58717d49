/-! # Numbers of a fixed width

Calendar fields are written in decimal with zeros in front. -/
set_option autoImplicit false
namespace BoundSql.Text

/-- The decimal digits of `n`, with zeros in front where there are fewer than `width`. -/
def paddedDigits (width n : Nat) : List Char :=
  let digits := Nat.toDigits 10 n
  List.replicate (width - digits.length) '0' ++ digits

def padded (width n : Nat) : String := String.ofList (paddedDigits width n)

theorem toList_padded (width n : Nat) : (padded width n).toList = paddedDigits width n :=
  String.toList_ofList

theorem le_length_paddedDigits (width n : Nat) : width ≤ (paddedDigits width n).length := by
  simp only [paddedDigits, List.length_append, List.length_replicate]
  omega

end BoundSql.Text
