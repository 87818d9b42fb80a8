import SplitPlanning.ByteSize.Basic
import SplitPlanning.Number.Binary64

/-!
# Values of settings

What a job may put under the key of a setting. The truth values count as integers, and a map is a
list of pairs in the order in which its keys first arrived.
-/

namespace SplitPlanning

inductive Value where
  | null
  | truth (b : Bool)
  | integer (n : Int)
  | text (s : String)
  | real (x : Number.Binary64)
  | bytes (octets : List UInt8)
  | size (amount : ByteSize)
  | list (items : List Value)
  | map (entries : List (Value × Value))

inductive ValueType where
  | text
  | size
  | integer
  | real
  | truth
  | list
  | map
deriving DecidableEq, Repr

instance : Inhabited Value := ⟨.null⟩

def ValueType.name : ValueType → String
  | .text => "str"
  | .size => "MemorySize"
  | .integer => "int"
  | .real => "float"
  | .truth => "bool"
  | .list => "list"
  | .map => "dict"

namespace Value

/-- The name of a value's own type as it is shown to the user. -/
def typeName : Value → String
  | null => "NoneType"
  | truth _ => "bool"
  | integer _ => "int"
  | text _ => "str"
  | real _ => "float"
  | bytes _ => "bytes"
  | size _ => "MemorySize"
  | list _ => "list"
  | map _ => "dict"

/-- Whether a value belongs to a type as it is. A truth value also belongs to the integers. -/
def hasType : Value → ValueType → Bool
  | truth _, .truth => true
  | truth _, .integer => true
  | integer _, .integer => true
  | text _, .text => true
  | real _, .real => true
  | size _, .size => true
  | list _, .list => true
  | map _, .map => true
  | _, _ => false

/-- The text that a value is, if it is one. -/
def text? : Value → Option String
  | text s => some s
  | _ => none

end Value

end SplitPlanning
