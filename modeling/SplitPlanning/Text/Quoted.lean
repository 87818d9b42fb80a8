import SplitPlanning.Text.Printable

/-!
# Quoted texts

The apostrophe is the quote unless the text holds an apostrophe and no double quote. A character
that cannot be shown is written as its code point in lower case hexadecimal, two, four or eight
digits wide. Of a sequence of bytes only visible ASCII is shown.
-/

namespace SplitPlanning.Text

def apostrophe : Char := '\x27'

def doubleQuote : Char := '\x22'

def backslash : Char := '\x5c'

/-! ## Hexadecimal digits -/

/-- The last `width` hexadecimal digits of a number, most significant first. -/
def hexDigits : (width : Nat) → Nat → List Char
  | 0, _ => []
  | width + 1, n => hexDigits width (n / 16) ++ [Nat.digitChar (n % 16)]

/-- A code point behind the letter that tells its width. -/
def codePointEscape (n : Nat) : List Char :=
  if n < 0x100 then backslash :: 'x' :: hexDigits 2 n
  else if n < 0x10000 then backslash :: 'u' :: hexDigits 4 n
  else backslash :: 'U' :: hexDigits 8 n

/-! ## Quoting -/

def quoteFor (s : List Char) : Char :=
  if s.contains apostrophe && !s.contains doubleQuote then doubleQuote else apostrophe

/-- A character inside quotes, where `visible` tells which characters are shown. -/
def escapeChar (visible : Char → Bool) (quote c : Char) : List Char :=
  if c = quote ∨ c = backslash then [backslash, c]
  else if c = '\t' then [backslash, 't']
  else if c = '\n' then [backslash, 'n']
  else if c = '\r' then [backslash, 'r']
  else if visible c then [c]
  else codePointEscape c.toNat

def quoteChars (visible : Char → Bool) (s : List Char) : List Char :=
  quoteFor s :: s.flatMap (escapeChar visible (quoteFor s)) ++ [quoteFor s]

def quoted (s : String) : String :=
  String.ofList (quoteChars isPrintable s.toList)

def isVisibleAscii (c : Char) : Bool :=
  0x20 ≤ c.toNat && c.toNat < 0x7F

def quotedBytes (bytes : List UInt8) : String :=
  String.ofList ('b' :: quoteChars isVisibleAscii (bytes.map fun b ↦ Char.ofNat b.toNat))

/-! ## Lists -/

def bracketed (items : List String) : String :=
  "[" ++ ", ".intercalate items ++ "]"

def quotedList (texts : List String) : String :=
  bracketed (texts.map quoted)

example : quoted "it\x27s" = "\x22it\x27s\x22" := by decide +kernel

end SplitPlanning.Text
