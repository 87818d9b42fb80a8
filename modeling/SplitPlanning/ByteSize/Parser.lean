import SplitPlanning.ByteSize.Basic
import SplitPlanning.Text.DecimalDigit

/-!
# Reading sizes

A written size is a number in decimal digits of any script, then the name of a unit in ASCII letters
or nothing, with blanks allowed between and around the two.
-/

namespace SplitPlanning

open Text

inductive SizeError where
  | missing
  | blank
  /-- The text is not a number with a name behind it. -/
  | malformed (text : String)
  | unknownUnit (unit : UnknownUnit)
  /-- The number has more digits than are read, whatever they are. -/
  | tooManyDigits (count : Nat)
  | overflow (text : String)
deriving DecidableEq, Repr

def SizeError.message : SizeError → String
  | missing => "text cannot be None"
  | blank => "argument is an empty- or whitespace-only string"
  | malformed text => "cannot parse memory size: '" ++ text ++ "'"
  | unknownUnit unit => unit.message
  | tooManyDigits count =>
    s!"Exceeds the limit ({maxDigits} digits) for integer string conversion: value has {count} " ++
      "digits; use sys.set_int_max_str_digits() to increase the limit"
  | overflow text =>
    "The value '" ++ text ++ "' cannot be represented as 64bit number of bytes (numeric overflow)."

/-- A size taken apart into the digits of its number and the letters of its unit. -/
structure WrittenSize where
  digits : List Char
  letters : List Char
deriving DecidableEq, Repr

/-- Takes apart a text without blanks at its ends. -/
def WrittenSize.ofChars? (s : List Char) : Option WrittenSize :=
  let digits := s.takeWhile isDecimalDigit
  let letters := (s.dropWhile isDecimalDigit).dropWhile isBlank
  if digits = [] ∨ letters.all Char.isAlpha = false then none else some ⟨digits, letters⟩

namespace ByteSize

/-- The largest number of bytes a text may denote, that of a signed 64-bit integer. -/
def maxBytes : Nat :=
  0x7FFFFFFFFFFFFFFF

def max : ByteSize :=
  ⟨maxBytes⟩

/-- The first of an unknown unit, too many digits and an overflow is reported. -/
def parse (text : String) : Except SizeError ByteSize :=
  let trimmed := trim text.toList
  if trimmed = [] then .error .blank
  else
    match WrittenSize.ofChars? trimmed with
    | none => .error (.malformed text)
    | some written =>
      match ByteUnit.parse (String.ofList written.letters) with
      | .error unit => .error (.unknownUnit unit)
      | .ok unit =>
        if maxDigits < written.digits.length then .error (.tooManyDigits written.digits.length)
        else
          let bytes := numeralValue written.digits * unit.multiplier
          if maxBytes < bytes then .error (.overflow text) else .ok ⟨bytes⟩

def parseGiven : Option String → Except SizeError ByteSize
  | none => .error .missing
  | some text => parse text

example : (parse " 64 kb ").toOption = some ⟨65536⟩ := by decide +kernel

end ByteSize

end SplitPlanning
