import SplitPlanning.ByteSize.Unit

/-!
# Sizes

A size is a number of bytes without an upper limit, shown in the largest unit that divides it. A
number that is printed is assumed to have no more digits than `Text.maxDigits`, as one that is read
must have.
-/

namespace SplitPlanning

structure ByteSize where
  bytes : Nat
deriving DecidableEq, Repr

/-- A size below zero was asked for. -/
structure NegativeSize where
  bytes : Int
deriving DecidableEq, Repr

def NegativeSize.message (_ : NegativeSize) : String :=
  "bytes must be >= 0"

namespace ByteSize

def ofInt (bytes : Int) : Except NegativeSize ByteSize :=
  if bytes < 0 then .error ⟨bytes⟩ else .ok ⟨bytes.toNat⟩

def ofUnits (unit : ByteUnit) (count : Int) : Except NegativeSize ByteSize :=
  ofInt (count * unit.multiplier)

@[simp] theorem ofInt_natCast (n : Nat) : ofInt n = .ok ⟨n⟩ := by
  simp [ofInt]

theorem ofInt_of_neg {n : Int} (h : n < 0) : ofInt n = .error ⟨n⟩ := by
  simp [ofInt, h]

instance : LE ByteSize := ⟨fun a b ↦ a.bytes ≤ b.bytes⟩

instance : LT ByteSize := ⟨fun a b ↦ a.bytes < b.bytes⟩

instance (a b : ByteSize) : Decidable (a ≤ b) :=
  inferInstanceAs (Decidable (a.bytes ≤ b.bytes))

instance (a b : ByteSize) : Decidable (a < b) :=
  inferInstanceAs (Decidable (a.bytes < b.bytes))

def sort (sizes : List ByteSize) : List ByteSize :=
  sizes.mergeSort fun a b ↦ decide (a ≤ b)

/-- The unit a size is shown in: the largest one that divides it, and bytes for nothing at all. -/
def shownUnit (size : ByteSize) : ByteUnit :=
  if size.bytes = 0 then .bytes
  else (ByteUnit.all.reverse.find? fun unit ↦ size.bytes % unit.multiplier = 0).getD .bytes

/-- A number and the label of a unit. -/
def text (size : ByteSize) : String :=
  toString (size.bytes / size.shownUnit.multiplier) ++ " " ++ size.shownUnit.label

/-- The form of a size inside a list or a record. -/
def literal (size : ByteSize) : String :=
  "MemorySize(" ++ toString size.bytes ++ ")"

end ByteSize

end SplitPlanning
