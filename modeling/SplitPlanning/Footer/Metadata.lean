import SplitPlanning.Value.Basic

/-!
# File metadata

What the end of a file says about its content, before it is checked.
-/

namespace SplitPlanning

structure ColumnMetadata where
  path : String
  codec : String
  encodings : List String
  hasDictionaryPage : Bool
  dictionaryPageOffset : Option Int
  dataPageOffset : Int
  totalCompressedSize : Int
  totalUncompressedSize : Int
  valueCount : Int

structure RowGroupMetadata where
  columns : List ColumnMetadata
  totalByteSize : Int
  rowCount : Int

structure FileMetadata where
  rowGroups : List RowGroupMetadata
  schema : Option String
  createdBy : Option String
  /-- The number of rows that the file claims to have. -/
  rowCount : Int
  keyValues : List (Value × Value)

end SplitPlanning
