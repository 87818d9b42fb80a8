import SplitPlanning.Text.Blank
import SplitPlanning.Text.LowerCase

/-! # Units of size -/

namespace SplitPlanning

open Text

inductive ByteUnit where
  | bytes
  | kibibytes
  | mebibytes
  | gibibytes
  | tebibytes
deriving DecidableEq, Repr

/-- The name of a unit is none of the known ones; it is given without blanks and in lower case. -/
structure UnknownUnit where
  name : String
deriving DecidableEq, Repr

namespace ByteUnit

def all : List ByteUnit :=
  [bytes, kibibytes, mebibytes, gibibytes, tebibytes]

def names : ByteUnit → List String
  | bytes => ["b", "bytes"]
  | kibibytes => ["k", "kb", "kibibytes"]
  | mebibytes => ["m", "mb", "mebibytes"]
  | gibibytes => ["g", "gb", "gibibytes"]
  | tebibytes => ["t", "tb", "tebibytes"]

/-- The name under which sizes are shown. -/
def label : ByteUnit → String
  | bytes => "bytes"
  | kibibytes => "kb"
  | mebibytes => "mb"
  | gibibytes => "gb"
  | tebibytes => "tb"

/-- The number of bytes in one unit. -/
def multiplier : ByteUnit → Nat
  | bytes => 1
  | kibibytes => 1024
  | mebibytes => 1024 * 1024
  | gibibytes => 1024 * 1024 * 1024
  | tebibytes => 1024 * 1024 * 1024 * 1024

theorem multiplier_pos (unit : ByteUnit) : 0 < unit.multiplier := by
  cases unit <;> decide

def ofName? (name : String) : Option ByteUnit :=
  all.find? fun unit ↦ unit.names.contains name

/-- No name belongs to two units. -/
theorem ofName?_eq_some_iff {name : String} {unit : ByteUnit} :
    ofName? name = some unit ↔ name ∈ unit.names := by
  constructor
  · intro h
    simpa using List.find?_some h
  · intro h
    cases unit <;> simp only [names, List.mem_cons, List.not_mem_nil, or_false] at h
    · rcases h with h | h <;> subst h <;> decide
    all_goals rcases h with h | h | h <;> subst h <;> decide

/-- The unit that a text names, in any case. An empty name means bytes. -/
def parse (text : String) : Except UnknownUnit ByteUnit :=
  let name := String.ofList (lower (trim text.toList))
  if name = "" then .ok bytes
  else
    match ofName? name with
    | some unit => .ok unit
    | none => .error ⟨name⟩

def choices (unit : ByteUnit) : String :=
  "(" ++ " | ".intercalate unit.names ++ ")"

end ByteUnit

def UnknownUnit.message (e : UnknownUnit) : String :=
  "Memory size unit '" ++ e.name ++ "' does not match any of the recognized units: " ++
    " / ".intercalate (ByteUnit.all.map ByteUnit.choices)

end SplitPlanning
