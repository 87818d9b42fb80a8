import SplitPlanning.JobPlanner
import SplitPlanning.Proofs.Configuration.Sizes

/-!
# Setting up a job

Only what is given for three sizes matters. The checks are made one after the other, so that of
several faults the first one is reported; the hosts are never at fault.
-/

namespace SplitPlanning

namespace GivenSizes

end GivenSizes

/-! ## The sizes that are read -/

namespace Setting

end Setting

variable {c : Configuration} {minSize maxSize blockSize : ByteSize} {cause : ConversionError}

namespace JobPlanner

/-- The window is checked before the size of a block is read. -/
example : ofConfiguration (Dictionary.ofList
    [("fs.block.size", .truth true), ("split.max-size", .integer 0)]) = .error (.window ⟨0, 0⟩) :=
  rfl

end JobPlanner

end SplitPlanning
