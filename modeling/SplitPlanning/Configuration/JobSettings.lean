import SplitPlanning.Configuration.Basic
import SplitPlanning.Configuration.HostList

/-! # Settings of split planning -/

namespace SplitPlanning

namespace Setting

def minSplitSize : Setting where
  key := "split.min-size"
  type := .size
  description := "The minimum size of a split. A split stops at a storage block boundary " ++
    "only once it holds at least this many bytes."
  default := .size ⟨0⟩
  key_ne_empty := by decide

def maxSplitSize : Setting where
  key := "split.max-size"
  type := .size
  description := "The maximum size of a split. A split may exceed it by at most one row group."
  default := .size ByteSize.max
  key_ne_empty := by decide

def blockSize : Setting where
  key := "fs.block.size"
  type := .size
  description := "The storage block size used to derive block locations for files whose " ++
    "filesystem does not report any."
  default := .size ⟨128 * 1024 * 1024⟩
  key_ne_empty := by decide

def blockHosts : Setting where
  key := "fs.block.hosts"
  type := .text
  description := "Comma separated hosts holding a replica of every derived block."
  default := .text "localhost"
  key_ne_empty := by decide

end Setting

namespace Configuration

def readBytes (c : Configuration) (s : Setting) (fallback : Option ByteSize) :
    Except ConversionError Int := do
  let value ← c.read s (fallback.map .size)
  let size ← value.toByteSize
  return size.bytes

def readText (c : Configuration) (s : Setting) (fallback : Option String) :
    Except ConversionError String := do
  let value ← c.read s (fallback.map .text)
  return value.display

def minSplitSize (c : Configuration) (fallback : Option ByteSize) : Except ConversionError Int :=
  c.readBytes .minSplitSize fallback

def maxSplitSize (c : Configuration) (fallback : Option ByteSize) : Except ConversionError Int :=
  c.readBytes .maxSplitSize fallback

def blockSize (c : Configuration) (fallback : Option ByteSize) : Except ConversionError Int :=
  c.readBytes .blockSize fallback

def blockHosts (c : Configuration) (fallback : Option String) :
    Except ConversionError (List String) := do
  let text ← c.readText .blockHosts fallback
  return HostList.decode text

end Configuration

end SplitPlanning
