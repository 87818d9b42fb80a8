import SplitPlanning.Value.Conversion
import SplitPlanning.Value.Equality
import SplitPlanning.Distinct

/-!
# Settings

Two settings are the same when their keys and their defaults are.
-/

namespace SplitPlanning

structure Setting where
  key : String
  type : ValueType
  description : String
  default : Value
  key_ne_empty : key ≠ ""

inductive SettingError where
  /-- All parts of the setting were given at once. -/
  | emptyKey
  /-- The setting was declared step by step, beginning with its key. -/
  | emptyDeclaredKey
deriving DecidableEq, Repr

def SettingError.message : SettingError → String
  | emptyKey => "Key must not be null."
  | emptyDeclaredKey => "Key must not be None or empty."

namespace Setting

def make (key : String) (type : ValueType) (description : String) (default : Value) :
    Except SettingError Setting :=
  if h : key = "" then .error .emptyKey
  else .ok { key, type, description, default, key_ne_empty := h }

/-- A setting declared by its key, type and default, which is still without a description. -/
def declare (key : String) (type : ValueType) (default : Value) : Except SettingError Setting :=
  if h : key = "" then .error .emptyDeclaredKey
  else .ok { key, type, description := "", default, key_ne_empty := h }

def withDescription (s : Setting) (description : String) : Setting :=
  { s with description }

/-- Equality of two settings made independently of each other. -/
def equals (s t : Setting) : Bool :=
  s.key = t.key && s.default.equals t.default

/-- Equality of a setting with the very same setting. -/
def equalsItself (s : Setting) : Bool :=
  s.default.equalsItself

def equalToFirst : List Setting → List Bool
  | [] => []
  | first :: rest => first.equalsItself :: rest.map first.equals

def countDistinct (settings : List Setting) : Nat :=
  SplitPlanning.countDistinct equals settings

def display (s : Setting) : String :=
  "key: '" ++ s.key ++ "'; default_value: " ++ s.default.display

end Setting

end SplitPlanning
