import SplitPlanning.Total

/-! # Row groups -/

namespace SplitPlanning

structure ColumnChunk where
  path : String
  codec : String
  /-- The first page of the chunk, a page with its dictionary included. -/
  startOffset : Int
  totalCompressedSize : Int
  totalUncompressedSize : Int
  valueCount : Int
  encodings : List String
deriving DecidableEq, Repr

structure RowGroup where
  startOffset : Int
  size : Int
  rowCount : Int
  columns : List ColumnChunk
  ordinal : Option Int
deriving DecidableEq, Repr

namespace RowGroup

/-- A row group of which nothing else is known. -/
def ofExtent (startOffset size rowCount : Int) : RowGroup :=
  { startOffset, size, rowCount, columns := [], ordinal := none }

def compressedSize (r : RowGroup) : Int :=
  totalOf ColumnChunk.totalCompressedSize r.columns

/-- Whether two row groups agree in all but their column chunks. -/
def agrees (r s : RowGroup) : Bool :=
  r.startOffset = s.startOffset && r.size = s.size && r.rowCount = s.rowCount &&
    r.ordinal = s.ordinal

def display (r : RowGroup) : String :=
  s!"RowGroup(start={r.startOffset}, size={r.size}, rows={r.rowCount})"

end RowGroup

end SplitPlanning
