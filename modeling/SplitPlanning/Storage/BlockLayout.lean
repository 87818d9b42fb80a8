import SplitPlanning.Storage.File

/-!
# Derived blocks

Where a storage reports no blocks, a file is cut at the multiples of one block size, and all its
blocks name the same hosts.
-/

namespace SplitPlanning

structure BlockLayout where
  blockSize : Int
  hosts : List String
  blockSize_pos : 0 < blockSize
deriving Repr

/-- Blocks of this size were asked for. -/
structure BlockSizeError where
  blockSize : Int
deriving DecidableEq, Repr

def BlockSizeError.message (e : BlockSizeError) : String :=
  s!"block size must be positive, got {e.blockSize}"

namespace BlockLayout

def make (blockSize : Int) (hosts : List String) : Except BlockSizeError BlockLayout :=
  if h : 0 < blockSize then .ok { blockSize, hosts, blockSize_pos := h } else .error ⟨blockSize⟩

def standardHosts : List String :=
  ["localhost"]

/-- Blocks of 128 mebibytes on the local host. -/
def standard : BlockLayout where
  blockSize := 128 * 1024 * 1024
  hosts := standardHosts
  blockSize_pos := by decide

def blockAt (layout : BlockLayout) (fileSize offset : Int) : Block :=
  { offset
    length := min layout.blockSize (fileSize - offset)
    hosts := layout.hosts
    names := [] }

/-- Where a listing that begins at `start` ends: behind `length` bytes, or at the end of the file
if that comes first or no length is given. -/
def listingStop (fileSize start : Int) (length : Option Int) : Int :=
  match length with
  | none => fileSize
  | some length => min fileSize (start + length)

/-- The multiple of the block size at or in front of a position. -/
def blockStart (layout : BlockLayout) (position : Int) : Int :=
  position / layout.blockSize * layout.blockSize

/-- How many blocks begin from the block of `start` on and in front of `stop`. -/
def blockCount (layout : BlockLayout) (start stop : Int) : Nat :=
  ((stop - layout.blockStart start + (layout.blockSize - 1)) / layout.blockSize).toNat

/-- The blocks of a file from the one at position `start` on, up to `length` bytes further. -/
def blocks (layout : BlockLayout) (fileSize start : Int) (length : Option Int) : List Block :=
  (List.range (layout.blockCount start (listingStop fileSize start length))).map
    fun (k : Nat) ↦ layout.blockAt fileSize (layout.blockStart start + k * layout.blockSize)

def listBlocks {ε : Type} (layout : BlockLayout) (fileSize start : Int) (length : Option Int) :
    Journal ε (List Block) := do
  let blocks := layout.blocks fileSize start length
  Journal.report (.blocksListed fileSize blocks.length layout.blockSize)
  return blocks

def listFileBlocks (layout : BlockLayout) (storage : Storage) (path : String) (start : Int)
    (length : Option Int) : Journal StorageError (List Block) := do
  let fileSize ← Journal.ofExcept (storage.fileSize path)
  layout.listBlocks fileSize start length

end BlockLayout

end SplitPlanning
