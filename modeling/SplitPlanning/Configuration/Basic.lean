import SplitPlanning.Configuration.Setting
import SplitPlanning.Dictionary

/-!
# Configurations

Values are kept as a job gives them and converted when a setting is read. A key that is absent or
holds nothing leaves the choice to the reader's own fallback and then to the default of the setting,
neither of which is converted.
-/

namespace SplitPlanning

abbrev Configuration := Dictionary Value

namespace Configuration

/-- The value that the job gave for a setting, if it gave one. -/
def given? (c : Configuration) (s : Setting) : Option Value :=
  match c.get? s.key with
  | some .null => none
  | raw => raw

def read (c : Configuration) (s : Setting) (fallback : Option Value) :
    Except ConversionError Value :=
  match c.given? s with
  | some raw => raw.convert s.type
  | none => .ok (fallback.getD s.default)

/-- The configuration with the text of a value stored for a setting. -/
def assign (c : Configuration) (s : Setting) (value : Value) : Configuration :=
  c.insert s.key (.text value.display)

/-- Whether the key of a setting is present, whatever it holds. -/
def gives (c : Configuration) (s : Setting) : Bool :=
  c.contains s.key

end Configuration

end SplitPlanning
