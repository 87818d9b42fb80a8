/-!
# Binary floating point numbers

A finite one is an integer times a power of two, and every question about its value is answered on
that pair, never by rounding arithmetic.
-/

namespace SplitPlanning.Number

structure Binary64 where
  bits : UInt64
deriving DecidableEq, Repr

/-- A finite magnitude, `significand * 2 ^ exponent`. -/
structure Magnitude where
  significand : Nat
  exponent : Int
  /-- The gap to the next smaller magnitude is half the gap to the next larger one. -/
  narrowBelow : Bool
deriving DecidableEq, Repr

/-- What the bits stand for, apart from the sign. -/
inductive Binary64.Content where
  | notANumber
  | infinity
  | finite (magnitude : Magnitude)
deriving DecidableEq, Repr

namespace Binary64

def isNegative (x : Binary64) : Bool :=
  x.bits.toNat / 0x8000000000000000 == 1

def exponentField (x : Binary64) : Nat :=
  x.bits.toNat / 0x10000000000000 % 0x800

def fraction (x : Binary64) : Nat :=
  x.bits.toNat % 0x10000000000000

def isZero (x : Binary64) : Bool :=
  x.exponentField == 0 && x.fraction == 0

def content (x : Binary64) : Content :=
  if x.exponentField = 2047 then
    if x.fraction = 0 then .infinity else .notANumber
  else if x.exponentField = 0 then
    .finite ⟨x.fraction, -1074, false⟩
  else
    .finite ⟨0x10000000000000 + x.fraction, (x.exponentField : Int) - 1075,
      x.fraction == 0 && 1 < x.exponentField⟩

/-- What is not a number equals nothing, and the two zeros are equal. -/
def equals (x y : Binary64) : Bool :=
  match x.content, y.content with
  | .notANumber, _ => false
  | _, .notANumber => false
  | _, _ => x = y ∨ x.isZero = true ∧ y.isZero = true

def equalsInt (x : Binary64) (n : Int) : Bool :=
  match x.content with
  | .finite magnitude =>
    magnitude.significand * Nat.pow 2 magnitude.exponent.toNat =
        n.natAbs * Nat.pow 2 (-magnitude.exponent).toNat ∧
      (n = 0 ∨ x.isNegative = decide (n < 0))
  | _ => false

end Binary64

end SplitPlanning.Number
