import SplitPlanning.Dictionary
import SplitPlanning.Footer.Basic
import SplitPlanning.Journal

/-!
# Files

The files that a job can reach, by path. What comes of reading their metadata is given, and may be
an error of the reader.
-/

namespace SplitPlanning

inductive FileKind where
  | file
  | directory
  | missing
deriving DecidableEq, Repr

/-- An error of whoever reads metadata, in its own words. -/
structure ReadError where
  name : String
  text : String
deriving DecidableEq, Repr

structure StoredFile where
  kind : FileKind
  size : Int
  metadata : Except ReadError FileMetadata

/-- Why a file cannot be used. -/
inductive StorageError where
  | missing (path : String)
  | unreadable (cause : ReadError)
  | notAFile (path : String)
deriving DecidableEq, Repr

def StorageError.message : StorageError → String
  | missing path => path
  | unreadable cause => cause.text
  | notAFile path => path ++ " is not a file"

abbrev Storage := Dictionary StoredFile

namespace Storage

def fileSize (storage : Storage) (path : String) : Except StorageError Int :=
  match storage.get? path with
  | some ⟨.file, size, _⟩ => .ok size
  | _ => .error (.notAFile path)

def metadata (storage : Storage) (path : String) : Except StorageError FileMetadata :=
  match storage.get? path with
  | some file => file.metadata.mapError .unreadable
  | none => .error (.missing path)

end Storage

inductive FooterLoadError where
  | storage (cause : StorageError)
  | footer (cause : FooterError)
deriving DecidableEq, Repr

/-- Reads the footer of the file at a path. That it was read is reported before it is checked. -/
def Storage.loadFooter (storage : Storage) (path : String) : Journal FooterLoadError Footer := do
  let m ← (Journal.ofExcept (storage.metadata path)).mapError .storage
  Journal.report (.footerRead path m.rowGroups.length m.rowCount)
  (Journal.ofExcept (Footer.ofMetadata path m)).mapError .footer

end SplitPlanning
