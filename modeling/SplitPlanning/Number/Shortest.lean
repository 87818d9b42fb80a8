import SplitPlanning.Number.Binary64

/-!
# The shortest decimal of a floating point number

Among the decimals that read back to a number, the shortest is the one with the fewest digits, and
of those the nearest. The reals that read back to it reach from halfway to its smaller neighbour to
halfway to its larger one. All are counted in one unit, a power of ten, so that the search compares
natural numbers only.
-/

namespace SplitPlanning.Number

/-- A positive decimal, `coefficient * 10 ^ exponent`. -/
structure Decimal where
  coefficient : Nat
  exponent : Int
deriving DecidableEq, Repr

/-- The reals that read back to a number, and the number itself, in units of `10 ^ exponent`. -/
structure RoundingInterval where
  low : Nat
  value : Nat
  high : Nat
  exponent : Int
  /-- The two ends read back to the number as well. -/
  closed : Bool
deriving DecidableEq, Repr

namespace RoundingInterval

/-- The interval of a finite magnitude. Its ends lie on the quarters of the last place of the
significand, and `2 ^ (-k)` is `5 ^ k` units of `10 ^ (-k)`. -/
def ofMagnitude (magnitude : Magnitude) : RoundingInterval :=
  let quarter := magnitude.exponent - 2
  let factor := Nat.pow 2 quarter.toNat * Nat.pow 5 (-quarter).toNat
  let below := if magnitude.narrowBelow then 1 else 2
  { low := (4 * magnitude.significand - below) * factor
    value := 4 * magnitude.significand * factor
    high := (4 * magnitude.significand + 2) * factor
    exponent := min quarter 0
    closed := magnitude.significand % 2 == 0 }

def reads (interval : RoundingInterval) (units : Nat) : Bool :=
  (interval.low < units && units < interval.high) ||
    (interval.closed && (units = interval.low || units = interval.high))

/-- The best decimal that keeps all but the last `dropped` digits of the value, if one of the two
next to the value reads back: the nearer one, and on a tie the even one. -/
def cut? (interval : RoundingInterval) (dropped : Nat) : Option Decimal :=
  let unit := Nat.pow 10 dropped
  let down := interval.value / unit
  let up := down + 1
  let exponent := interval.exponent + dropped
  match interval.reads (down * unit), interval.reads (up * unit) with
  | false, false => none
  | true, false => some ⟨down, exponent⟩
  | false, true => some ⟨up, exponent⟩
  | true, true =>
    if 2 * interval.value < (down + up) * unit ∨
        2 * interval.value = (down + up) * unit ∧ down % 2 = 0 then
      some ⟨down, exponent⟩
    else
      some ⟨up, exponent⟩

/-- The numbers of digits to drop, most first: all but one, all but two, and so on down to all but
seventeen, which always read back. -/
def cuts (interval : RoundingInterval) : List Nat :=
  let places := (Nat.toDigits 10 interval.value).length
  (List.range 17).map fun kept ↦ places - (kept + 1)

end RoundingInterval

def Magnitude.shortest (magnitude : Magnitude) : Decimal :=
  let interval := RoundingInterval.ofMagnitude magnitude
  (interval.cuts.findSome? interval.cut?).getD ⟨interval.value, interval.exponent⟩

end SplitPlanning.Number
