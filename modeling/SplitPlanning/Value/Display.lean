import SplitPlanning.Value.Basic
import SplitPlanning.Number.Layout
import SplitPlanning.Text.Quoted

/-!
# Values as texts

A text is its own text, and a list or a map shows what it holds in literal form, in which texts are
quoted and a size is told from a number. An integer is assumed to be short enough to be printed, as
the number in a size is.
-/

namespace SplitPlanning

open Text

namespace Value

mutual

/-- The form of a value inside a list or a map. -/
def literal : Value → String
  | .null => "None"
  | .truth b => if b then "True" else "False"
  | .integer n => toString n
  | .text s => quoted s
  | .real x => Number.standardLayout.binary64 x
  | .bytes octets => quotedBytes octets
  | .size amount => amount.literal
  | .list items => bracketed (literals items)
  | .map entries => "\x7b" ++ ", ".intercalate (entryLiterals entries) ++ "\x7d"
termination_by structural v => v

def literals : List Value → List String
  | [] => []
  | item :: rest => item.literal :: literals rest
termination_by structural l => l

def entryLiterals : List (Value × Value) → List String
  | [] => []
  | (key, value) :: rest => (key.literal ++ ": " ++ value.literal) :: entryLiterals rest
termination_by structural l => l

end

def display : Value → String
  | .text s => s
  | .size amount => amount.text
  | v => v.literal

end Value

end SplitPlanning
