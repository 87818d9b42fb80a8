import SplitPlanning.Number.Shortest

/-! # Writing a floating point number -/

namespace SplitPlanning.Number

structure Layout where
  /-- The least exponent of the leading digit that is written without an exponent. -/
  plainFrom : Int
  /-- The least exponent of the leading digit above those that is written with one again. -/
  plainBelow : Int
  /-- An exponent has at least this many digits. -/
  exponentWidth : Nat
deriving DecidableEq, Repr

namespace Layout

def zeros (count : Nat) : List Char :=
  List.replicate count '0'

/-- Digits with the point behind the first `point` of them; zeros are added where digits are
missing, so that a digit stands on each side of the point. -/
def plain (digits : List Char) (point : Int) : List Char :=
  if point ≤ 0 then
    '0' :: '.' :: zeros (-point).toNat ++ digits
  else if digits.length ≤ point.toNat then
    digits ++ zeros (point.toNat - digits.length) ++ ['.', '0']
  else
    digits.take point.toNat ++ '.' :: digits.drop point.toNat

def scientific (layout : Layout) (digits : List Char) (exponent : Int) : List Char :=
  let mantissa := match digits with
    | first :: second :: rest => first :: '.' :: second :: rest
    | short => short
  let power := Nat.toDigits 10 exponent.natAbs
  mantissa ++ 'e' :: (if exponent < 0 then '-' else '+') ::
    zeros (layout.exponentWidth - power.length) ++ power

/-- A positive decimal, without trailing zeros of its coefficient. -/
def decimal (layout : Layout) (d : Decimal) : List Char :=
  let all := Nat.toDigits 10 d.coefficient
  let digits := (all.reverse.dropWhile (· == '0')).reverse
  let leading := all.length + d.exponent - 1
  if layout.plainFrom ≤ leading ∧ leading < layout.plainBelow then
    plain digits (leading + 1)
  else
    layout.scientific digits leading

def binary64 (layout : Layout) (x : Binary64) : String :=
  let sign := if x.isNegative then ['-'] else []
  match x.content with
  | .notANumber => "nan"
  | .infinity => String.ofList (sign ++ ['i', 'n', 'f'])
  | .finite magnitude =>
    if magnitude.significand = 0 then
      String.ofList (sign ++ ['0', '.', '0'])
    else
      String.ofList (sign ++ layout.decimal magnitude.shortest)

end Layout

/-- The shortest decimal is written positionally from a ten-thousandth up to below ten to the
sixteenth, and with a signed exponent of at least two digits otherwise. -/
def standardLayout : Layout :=
  { plainFrom := -4, plainBelow := 16, exponentWidth := 2 }

end SplitPlanning.Number
