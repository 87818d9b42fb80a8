import SplitPlanning.Configuration.Basic
import SplitPlanning.Footer.RowGroup
import SplitPlanning.Text.Quoted

/-!
# Splits

A split is a run of neighbouring row groups of one file that is handed to one task, together with
what the task needs.
-/

namespace SplitPlanning

/-- What all splits of one file have in common. -/
structure SplitContext where
  schema : String
  configuration : Configuration
  path : Option String
  keyValues : Dictionary Value

structure Split where
  rowGroups : List RowGroup
  size : Int
  rowCount : Int
  hosts : List String
  context : SplitContext

/-- A split without row groups has no beginning. -/
inductive SplitError where
  | noRowGroups
deriving DecidableEq, Repr

def SplitError.message : SplitError → String
  | noRowGroups => "tuple index out of range"

namespace Split

/-- Where the first row group starts. -/
def start (s : Split) : Except SplitError Int :=
  match s.rowGroups with
  | [] => .error .noRowGroups
  | first :: _ => .ok first.startOffset

def display (s : Split) : Except SplitError String := do
  let start ← s.start
  let path := s.context.path.getD "None"
  return s!"ParquetSplit(path={path}, start={start}, size={s.size}, length={s.rowCount}, " ++
    s!"row_groups={s.rowGroups.length}, locations={Text.quotedList s.hosts})"

/-! ## Equality -/

def sameRowGroups : List RowGroup → List RowGroup → Bool
  | [], [] => true
  | r :: rest, s :: more => r.agrees s && sameRowGroups rest more
  | _, _ => false

/-- Equality of two splits made independently of each other. Column chunks do not count. -/
def equals (s t : Split) : Bool :=
  sameRowGroups s.rowGroups t.rowGroups && s.size = t.size && s.rowCount = t.rowCount &&
    s.hosts = t.hosts && s.context.schema = t.context.schema &&
    s.context.configuration.agree Value.equals t.context.configuration &&
    s.context.path = t.context.path &&
    s.context.keyValues.agree Value.equals t.context.keyValues

/-- Which splits of a list equal the first one, which equals itself. -/
def equalToFirst : List Split → List Bool
  | [] => []
  | first :: rest => true :: rest.map first.equals

def countDistinct (splits : List Split) : Nat :=
  SplitPlanning.countDistinct equals splits

end Split

end SplitPlanning
