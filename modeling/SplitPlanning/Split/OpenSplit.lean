import SplitPlanning.Split.Basic
import SplitPlanning.Split.SizeWindow
import SplitPlanning.Storage.Block

/-!
# Open splits

An open split knows the block its first byte falls in, whose hosts it will name, and the block
boundary behind that byte.
-/

namespace SplitPlanning

structure OpenSplit where
  block : Option Block
  boundary : Option Int
  members : List RowGroup
  size : Int
  size_eq : size = totalOf RowGroup.size members

namespace OpenSplit

/-- An open split that has taken no row group yet. -/
def new (block : Option Block) (boundary : Option Int) : OpenSplit where
  block := block
  boundary := boundary
  members := []
  size := 0
  size_eq := rfl

def add (s : OpenSplit) (r : RowGroup) : OpenSplit where
  block := s.block
  boundary := s.boundary
  members := s.members ++ [r]
  size := s.size + r.size
  size_eq := by simp [s.size_eq]

def isEmpty (s : OpenSplit) : Bool :=
  s.members.isEmpty

def crossesBoundary (s : OpenSplit) (r : RowGroup) : Bool :=
  match s.boundary with
  | none => false
  | some boundary => boundary ≤ r.startOffset

/-- Whether the split, given the minimum size, ends at the boundary in front of a row group. -/
def closesBefore (s : OpenSplit) (r : RowGroup) (minSize : Int) : Bool :=
  !s.isEmpty && minSize ≤ s.size && s.crossesBoundary r

/-- Whether the split takes a row group next. -/
def takes (s : OpenSplit) (w : SizeWindow) (r : RowGroup) : Bool :=
  s.size < w.maxSize && !s.closesBefore r w.minSize

def close (s : OpenSplit) (context : SplitContext) : Split where
  rowGroups := s.members
  size := s.size
  rowCount := totalOf RowGroup.rowCount s.members
  hosts := (s.block.map Block.hosts).getD []
  context := context

@[simp] theorem members_add (s : OpenSplit) (r : RowGroup) :
    (s.add r).members = s.members ++ [r] := rfl

@[simp] theorem block_add (s : OpenSplit) (r : RowGroup) : (s.add r).block = s.block := rfl

/-- A new split takes whatever comes first, in every window. -/
theorem takes_new (block : Option Block) (boundary : Option Int) (w : SizeWindow)
    (r : RowGroup) : (new block boundary).takes w r = true := by
  simp [takes, new, closesBefore, isEmpty, w.maxSize_pos]

end OpenSplit

end SplitPlanning
