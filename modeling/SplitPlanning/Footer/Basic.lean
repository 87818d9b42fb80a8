import SplitPlanning.Footer.Metadata
import SplitPlanning.Footer.RowGroup
import SplitPlanning.Dictionary
import SplitPlanning.Text.Blank
import SplitPlanning.Text.Utf8
import SplitPlanning.Value.Display

/-!
# Footers

A footer is what planning needs of the metadata of a file, checked: every row group has a column
chunk and none starts in front of the one before it.
-/

namespace SplitPlanning

open Text

structure Footer where
  path : String
  rowGroups : List RowGroup
  schema : String
  /-- All texts in a footer that was made from the metadata of a file. -/
  keyValues : Dictionary Value
  createdBy : Option String

inductive FooterFault where
  | undecodable (reason : String)
  | noColumns (ordinal : Nat)
  | unsorted (previous current : Int)
deriving DecidableEq, Repr

/-- What is wrong with the metadata of a file, and the path of the file if it is known. -/
structure FooterError where
  fault : FooterFault
  path : Option String
deriving DecidableEq, Repr

def FooterFault.message : FooterFault → String
  | undecodable reason => reason
  | noColumns ordinal => s!"row group {ordinal} has no column chunks"
  | unsorted previous current =>
    s!"row groups are not sorted: previous row groups starts at {previous}, " ++
      s!"current row group starts at {current}"

def FooterError.message (e : FooterError) : String :=
  match e.path with
  | none => e.fault.message
  | some path => e.fault.message ++ " (file: " ++ path ++ ")"

/-! ## Row groups -/

namespace ColumnMetadata

/-- The first page of a column: the dictionary page if there is one in front of the data. -/
def startOffset (column : ColumnMetadata) : Int :=
  match column.dictionaryPageOffset with
  | some offset =>
    if column.hasDictionaryPage = true ∧ 0 < offset ∧ offset < column.dataPageOffset then offset
    else column.dataPageOffset
  | none => column.dataPageOffset

def toChunk (column : ColumnMetadata) : ColumnChunk :=
  { path := column.path
    codec := column.codec
    startOffset := column.startOffset
    totalCompressedSize := column.totalCompressedSize
    totalUncompressedSize := column.totalUncompressedSize
    valueCount := column.valueCount
    encodings := column.encodings }

end ColumnMetadata

namespace RowGroupMetadata

/-- The row group at a place of a file. It starts where its first column does. -/
def toRowGroup (m : RowGroupMetadata) (ordinal : Nat) : Except FooterFault RowGroup :=
  match m.columns with
  | [] => .error (.noColumns ordinal)
  | first :: _ =>
    .ok
      { startOffset := first.startOffset
        size := m.totalByteSize
        rowCount := m.rowCount
        columns := m.columns.map ColumnMetadata.toChunk
        ordinal := some ordinal }

/-- Whether a row group that starts at `current` may follow one that starts at `previous`. -/
def checkOrder (previous : Option Int) (current : Int) : Except FooterFault Unit :=
  match previous with
  | some previous => if current < previous then .error (.unsorted previous current) else .ok ()
  | none => .ok ()

/-- The row groups from the place `ordinal` on, behind one that starts at `previous`. -/
def toRowGroups (ordinal : Nat) (previous : Option Int) :
    List RowGroupMetadata → Except FooterFault (List RowGroup)
  | [] => .ok []
  | m :: rest => do
    let r ← m.toRowGroup ordinal
    checkOrder previous r.startOffset
    let later ← toRowGroups (ordinal + 1) (some r.startOffset) rest
    return r :: later

end RowGroupMetadata

/-! ## Texts -/

namespace FileMetadata

/-- The schema without blanks around it. A first line that begins with an angle bracket names the
object that printed the schema and is not part of it. -/
def schemaText (m : FileMetadata) : String :=
  let shown := (m.schema.getD "None").toList
  let body := if shown.head? = some '<' then (shown.dropWhile (· ≠ '\n')).drop 1 else shown
  String.ofList (trim body)

/-- The text of a key or a value: bytes are read as UTF-8. -/
def entryText : Value → String
  | .bytes octets => Utf8.decode octets
  | v => v.display

/-- Keys and values as texts. Of two keys with one text the later one wins. -/
def keyValueTexts (m : FileMetadata) : Dictionary String :=
  Dictionary.ofList (m.keyValues.map fun entry ↦ (entryText entry.1, entryText entry.2))

end FileMetadata

namespace Footer

def ofMetadata (path : String) (m : FileMetadata) : Except FooterError Footer :=
  match RowGroupMetadata.toRowGroups 0 none m.rowGroups with
  | .error fault => .error ⟨fault, some path⟩
  | .ok rowGroups =>
    .ok
      { path
        rowGroups
        schema := m.schemaText
        keyValues := m.keyValueTexts.map Value.text
        createdBy := m.createdBy }

def rowCount (footer : Footer) : Int :=
  totalOf RowGroup.rowCount footer.rowGroups

end Footer

end SplitPlanning
