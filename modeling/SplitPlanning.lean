import SplitPlanning.Text.Blank
import SplitPlanning.Text.DecimalDigit
import SplitPlanning.Text.Printable
import SplitPlanning.Text.LowerCase
import SplitPlanning.Text.Quoted
import SplitPlanning.Text.Utf8
import SplitPlanning.Number.Layout
import SplitPlanning.Dictionary
import SplitPlanning.Distinct
import SplitPlanning.ByteSize.Parser
import SplitPlanning.Value.Equality
import SplitPlanning.Value.Conversion
import SplitPlanning.Configuration.JobSettings
import SplitPlanning.Configuration.Sharing
import SplitPlanning.Storage.BlockCursor
import SplitPlanning.Storage.BlockLayout
import SplitPlanning.JobPlanner
import SplitPlanning.Proofs.Storage.Answers
import SplitPlanning.Proofs.Split.Division
import SplitPlanning.Proofs.Split.StatelessPlanning
import SplitPlanning.Proofs.Split.Partition
import SplitPlanning.Proofs.Split.Locality
import SplitPlanning.Proofs.Storage.CursorHistory
import SplitPlanning.Proofs.Split.Optimality
import SplitPlanning.Proofs.Split.WiderWindow
import SplitPlanning.Proofs.Split.WithoutBlocks
import SplitPlanning.Proofs.Split.Appending
import SplitPlanning.Proofs.Split.Regions
import SplitPlanning.Proofs.Storage.DerivedBlocks
import SplitPlanning.Proofs.Job.Planning
import SplitPlanning.Proofs.Job.Conservation
import SplitPlanning.Proofs.Job.DerivedBlocks
import SplitPlanning.Proofs.Job.CoarserBlocks
import SplitPlanning.Proofs.Footer.Order
import SplitPlanning.Proofs.Storage.Replies
import SplitPlanning.Proofs.Storage.Location
import SplitPlanning.Proofs.Split.Warnings
import SplitPlanning.Proofs.Storage.Edges
import SplitPlanning.Proofs.ByteSize.RoundTrip
import SplitPlanning.Proofs.Text.LowerCase
import SplitPlanning.Proofs.ByteSize.Grammar
import SplitPlanning.Proofs.Job.Failures
import SplitPlanning.Proofs.Split.Extents
import SplitPlanning.Proofs.Storage.Tiling
import SplitPlanning.Proofs.Storage.Ranges
import SplitPlanning.Proofs.Footer.Faults
import SplitPlanning.Proofs.Configuration.Sizes
import SplitPlanning.Proofs.Job.Setup
import SplitPlanning.Proofs.Configuration.WrittenForms
import SplitPlanning.Proofs.Configuration.Assignments
import SplitPlanning.Proofs.ByteSize.OtherTexts
import SplitPlanning.Proofs.Configuration.StoredTexts
import SplitPlanning.Proofs.Configuration.SharedViews
import SplitPlanning.Proofs.Configuration.HostLists
import SplitPlanning.Proofs.Job.KeyValues
