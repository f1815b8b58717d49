/-! # Binary floating point words

A word holds a sign, an exponent field and a fraction.  `Binary` is what the word
stands for: an exact dyadic number, an infinity, or no number.  `Float4` and
`Float8` keep the word itself, so two values are equal exactly when their bits
are. -/
set_option autoImplicit false
namespace BoundSql.Decimal

structure BinaryFormat where
  fractionBits : Nat
  exponentBits : Nat

def single : BinaryFormat := ⟨23, 8⟩

def double : BinaryFormat := ⟨52, 11⟩

/-- The meaning of a word.  A finite value is `mantissa * 2 ^ exponent`;
`narrow` says that the next smaller magnitude is only half as far away as the
next larger one, as it is at a power of two. -/
inductive Binary
  | nan
  | infinite (negative : Bool)
  | finite (negative : Bool) (mantissa : Nat) (exponent : Int) (narrow : Bool)
deriving DecidableEq

def BinaryFormat.decode (f : BinaryFormat) (bits : Nat) : Binary :=
  let fraction := bits % Nat.pow 2 f.fractionBits
  let field := bits / Nat.pow 2 f.fractionBits % Nat.pow 2 f.exponentBits
  let negative := decide (bits / Nat.pow 2 (f.fractionBits + f.exponentBits) % 2 = 1)
  let least : Int := 2 - Int.pow 2 (f.exponentBits - 1) - f.fractionBits
  if field = Nat.pow 2 f.exponentBits - 1 then
    if fraction = 0 then .infinite negative else .nan
  else if field = 0 then .finite negative fraction least false
  else
    .finite negative (Nat.pow 2 f.fractionBits + fraction) (least + field - 1)
      (decide (fraction = 0) && decide (1 < field))

structure Float4 where
  bits : UInt32
deriving DecidableEq

structure Float8 where
  bits : UInt64
deriving DecidableEq

def Float4.decode (x : Float4) : Binary := single.decode x.bits.toNat

def Float8.decode (x : Float8) : Binary := double.decode x.bits.toNat

end BoundSql.Decimal
