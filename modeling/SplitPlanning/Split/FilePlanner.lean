import SplitPlanning.Split.Planner

/-!
# Planning file after file

The sizes of a file planner form a window when it is made; as they may be replaced afterwards, every
planning checks them again.
-/

namespace SplitPlanning

structure FilePlanner where
  minSize : Int
  maxSize : Int
  /-- The schema of files planned without one of their own. -/
  schema : String
  configuration : Configuration

namespace FilePlanner

def make (minSize maxSize : Int) (schema : String) (configuration : Configuration) :
    Except WindowError FilePlanner := do
  let w ← SizeWindow.make minSize maxSize
  return { minSize := w.minSize, maxSize := w.maxSize, schema, configuration }

def splitContext (p : FilePlanner) (schema : Option String) (path : Option String)
    (keyValues : Dictionary Value) : SplitContext :=
  { schema := schema.getD p.schema, configuration := p.configuration, path, keyValues }

def plan (p : FilePlanner) (rowGroups : List RowGroup) (blocks : List Block)
    (schema : Option String) (path : Option String) (keyValues : Dictionary Value) :
    Journal WindowError (List Split) :=
  planRowGroups rowGroups blocks (p.splitContext schema path keyValues) p.minSize p.maxSize

end FilePlanner

end SplitPlanning
