import SplitPlanning.Storage.Block

/-! # Events -/

namespace SplitPlanning

inductive Severity where
  | debug
  | info
  | warning
deriving DecidableEq, Repr

inductive Activity where
  | blockLocating
  | blockListing
  | footerReading
  | splitPlanning
  | jobPlanning
deriving DecidableEq, Repr

inductive Event where
  /-- No block holds the position and another block was used. -/
  | blockMissed (position : Int) (used : Block)
  | blocksListed (fileSize : Int) (blocks : Nat) (blockSize : Int)
  | footerRead (path : String) (rowGroups : Nat) (rows : Int)
  | splitsPlanned (splits rowGroups blocks : Nat) (minSize maxSize : Int)
  | filePlanned (path : String) (rowGroups splits : Nat)
  | jobPlanned (splits files : Nat) (bytes rows : Int)
deriving DecidableEq, Repr

namespace Event

def severity : Event → Severity
  | blockMissed .. => .warning
  | jobPlanned .. => .info
  | _ => .debug

def activity : Event → Activity
  | blockMissed .. => .blockLocating
  | blocksListed .. => .blockListing
  | footerRead .. => .footerReading
  | splitsPlanned .. => .splitPlanning
  | filePlanned .. => .jobPlanning
  | jobPlanned .. => .jobPlanning

def message : Event → String
  | blockMissed position used =>
    s!"No storage block contains offset {position}, using {used.display} instead"
  | blocksListed fileSize blocks blockSize =>
    s!"File of {fileSize} bytes spans {blocks} blocks of {blockSize} bytes"
  | footerRead path rowGroups rows =>
    s!"Read footer of {path}: {rowGroups} row groups, {rows} rows"
  | splitsPlanned splits rowGroups blocks minSize maxSize =>
    s!"Planned {splits} splits from {rowGroups} row groups over {blocks} blocks " ++
      s!"(min size {minSize}, max size {maxSize})"
  | filePlanned path rowGroups splits =>
    s!"File {path}: {rowGroups} row groups planned into {splits} splits"
  | jobPlanned splits files bytes rows =>
    s!"Planned {splits} splits for {files} files ({bytes} bytes, {rows} rows)"

end Event

end SplitPlanning
