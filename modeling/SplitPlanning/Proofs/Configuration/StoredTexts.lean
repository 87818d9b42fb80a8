import SplitPlanning.Proofs.ByteSize.OtherTexts
import SplitPlanning.Proofs.Configuration.WrittenForms

/-!
# Values stored as texts

A value may be assigned through a setting, which stores its text, or be placed under the key of the
setting as it is. Only the missing value and sizes that no text may denote come out differently.
-/

namespace SplitPlanning

namespace Value

variable {v : Value} {amount : ByteSize} {cause : ConversionError}

end Value

namespace Configuration

/-- Nothing, and the smallest size that no text denotes. -/
theorem read_assign_unlike_read_insert :
    let assigned (v : Value) :=
      Configuration.read (Configuration.assign ∅ .maxSplitSize v) .maxSplitSize none
    let placed (v : Value) :=
      Configuration.read (Dictionary.insert ∅ "split.max-size" v) .maxSplitSize none
    ¬Alike (assigned .null) (placed .null) ∧
      ¬Alike (assigned (.integer 9223372036854775808)) (placed (.integer 9223372036854775808)) := by
  intro assigned placed
  constructor
  · intro halike
    nomatch (halike (.size .max)).mpr rfl
  · intro halike
    nomatch (halike (.size ⟨9223372036854775808⟩)).mpr rfl

end Configuration

end SplitPlanning
