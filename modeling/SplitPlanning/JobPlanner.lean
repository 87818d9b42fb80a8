import SplitPlanning.Configuration.JobSettings
import SplitPlanning.Plan
import SplitPlanning.Split.FilePlanner
import SplitPlanning.Storage.BlockLayout

/-!
# Planning a job

A job planner is made from the configuration of a job and turns files into splits, all of which
carry the configuration.
-/

namespace SplitPlanning

inductive SetupError where
  | conversion (cause : ConversionError)
  | window (cause : WindowError)
  | blockSize (cause : BlockSizeError)
deriving DecidableEq, Repr

def SetupError.message : SetupError → String
  | conversion cause => cause.message
  | window cause => cause.message
  | blockSize cause => cause.message

def BlockLayout.ofConfiguration (c : Configuration) : Except SetupError BlockLayout := do
  let blockSize ← (c.blockSize none).mapError .conversion
  let hosts ← (c.blockHosts none).mapError .conversion
  (BlockLayout.make blockSize hosts).mapError .blockSize

structure JobPlanner where
  filePlanner : FilePlanner
  layout : BlockLayout

inductive PlanningError where
  | storage (cause : StorageError)
  | footer (cause : FooterError)
  | window (cause : WindowError)
deriving DecidableEq, Repr

def PlanningError.message : PlanningError → String
  | storage cause => cause.message
  | footer cause => cause.message
  | window cause => cause.message

def PlanningError.ofFooterError : FooterLoadError → PlanningError
  | .storage cause => .storage cause
  | .footer cause => .footer cause

namespace JobPlanner

/-- The planner for a job. A size that does not convert is reported first, then a window that
cannot be met, then an unusable block size. -/
def ofConfiguration (c : Configuration) : Except SetupError JobPlanner := do
  let minSize ← (c.minSplitSize none).mapError .conversion
  let maxSize ← (c.maxSplitSize none).mapError .conversion
  let filePlanner ← (FilePlanner.make minSize maxSize "" c).mapError .window
  let layout ← BlockLayout.ofConfiguration c
  return { filePlanner, layout }

def planFooter (p : JobPlanner) (storage : Storage) (footer : Footer) :
    Journal PlanningError (List Split) := do
  let blocks ← (p.layout.listFileBlocks storage footer.path 0 none).mapError .storage
  (p.filePlanner.plan footer.rowGroups blocks (some footer.schema) (some footer.path)
    footer.keyValues).mapError .window

def planFile (p : JobPlanner) (storage : Storage) (path : String) :
    Journal PlanningError (List Split) := do
  let footer ← (storage.loadFooter path).mapError .ofFooterError
  let splits ← p.planFooter storage footer
  Journal.report (.filePlanned path footer.rowGroups.length splits.length)
  return splits

/-- Plans files one after the other, up to the first that fails. -/
def planEach (p : JobPlanner) (storage : Storage) :
    List String → Journal PlanningError (List Split)
  | [] => pure []
  | path :: rest => do
    let splits ← p.planFile storage path
    let later ← planEach p storage rest
    return splits ++ later

/-- Plans all files of a job and reports the totals. -/
def planFiles (p : JobPlanner) (storage : Storage) (paths : List String) :
    Journal PlanningError Plan := do
  let splits ← p.planEach storage paths
  let plan : Plan := ⟨splits⟩
  Journal.report (.jobPlanned plan.size paths.length plan.byteCount plan.rowCount)
  return plan

end JobPlanner

end SplitPlanning
