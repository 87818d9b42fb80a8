import SplitPlanning.Text.Quoted

/-! # Storage blocks -/

namespace SplitPlanning

/-- The bytes from `offset` on, `length` of them, and where replicas are held. -/
structure Block where
  offset : Int
  length : Int
  hosts : List String
  names : List String
deriving DecidableEq, Repr

namespace Block

def stop (b : Block) : Int :=
  b.offset + b.length

instance : Membership Int Block where
  mem b position := b.offset ≤ position ∧ position < b.stop

theorem mem_iff {b : Block} {position : Int} :
    position ∈ b ↔ b.offset ≤ position ∧ position < b.stop := Iff.rfl

instance (position : Int) (b : Block) : Decidable (position ∈ b) :=
  inferInstanceAs (Decidable (b.offset ≤ position ∧ position < b.stop))

def display (b : Block) : String :=
  "BlockLocation([" ++ toString b.offset ++ ", " ++ toString b.stop ++ "), hosts=" ++
    Text.quotedList b.hosts ++ ")"

end Block

end SplitPlanning
