import SplitPlanning.Split.Basic

/-! # Plans -/

namespace SplitPlanning

structure Plan where
  splits : List Split

namespace Plan

def size (p : Plan) : Nat :=
  p.splits.length

def byteCount (p : Plan) : Int :=
  totalOf Split.size p.splits

def rowCount (p : Plan) : Int :=
  totalOf Split.rowCount p.splits

def paths (p : Plan) : List (Option String) :=
  p.splits.map (·.context.path)

end Plan

end SplitPlanning
