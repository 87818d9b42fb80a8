import SplitPlanning.Value.Display
import SplitPlanning.ByteSize.Parser

/-!
# Converting values

A missing value stays missing and a value of the type stays as it is. Every value becomes a text;
texts and integers become sizes. Nothing converts to the other types.
-/

namespace SplitPlanning

inductive ConversionError where
  | unreadable (cause : SizeError)
  | negative (cause : NegativeSize)
  /-- Values of this type never become a size. -/
  | notASize (typeName : String)
  /-- Nothing converts to this type. -/
  | unsupported (type : ValueType)
deriving DecidableEq, Repr

def ConversionError.message : ConversionError → String
  | unreadable cause => cause.message
  | negative cause => cause.message
  | notASize typeName => "Cannot convert <class '" ++ typeName ++ "'> to MemorySize"
  | unsupported type => "Unsupported type: <class '" ++ type.name ++ "'>"

namespace Value

/-- The size that a value denotes. A truth value is not taken for a number here. -/
def toByteSize : Value → Except ConversionError ByteSize
  | size amount => .ok amount
  | integer n => (ByteSize.ofInt n).mapError .negative
  | text s => (ByteSize.parse s).mapError .unreadable
  | v => .error (.notASize v.typeName)

def convert (v : Value) (type : ValueType) : Except ConversionError Value :=
  match v with
  | null => .ok null
  | v =>
    if v.hasType type then .ok v
    else
      match type with
      | .text => .ok (text v.display)
      | .size => v.toByteSize.map size
      | type => .error (.unsupported type)

/-- A value that is present converts to a size as far as it denotes one. -/
theorem convert_size {v : Value} (h : v ≠ null) :
    v.convert .size = v.toByteSize.map size := by
  cases v
  case null => exact absurd rfl h
  all_goals rfl

end Value

end SplitPlanning
