import EntityModels.Document.Text
import EntityModels.Document.Tree
import EntityModels.Json.Pointer
import EntityModels.Model.Event

/-!
Loading documents: without a pointer the text is the document, with one the document is the part of
the text's value that the pointer selects.
-/
namespace EntityModels

/-- Why documents give no graph. -/
inductive LoadFault where
  | decode (fault : Fault)
  | pointerMiss (pointer : String)
  | node (fault : NodeFault)
  | name (fault : NameFault)
deriving DecidableEq, Repr

def LoadFault.message : LoadFault → String
  | .decode fault => "at JSON path " ++ pathText fault.path ++ " → " ++ fault.message
  | .pointerMiss pointer => "JSON pointer `" ++ pointer ++ "` selects nothing"
  | .node fault => fault.message
  | .name fault => fault.message

def loadEntries (source : String) (pointer : Option String) :
    Except LoadFault (List EntityEntry) :=
  match pointer with
  | none => (entriesOfText? source).mapError .decode
  | some pointer => do
    let value ← (Json.ofPrefix? source).mapError .decode
    match value.lastWins.select? pointer with
    | none => throw (.pointerMiss pointer)
    | some selected => (entriesOfJson? selected).mapError .decode

def loadDocument (source : String) (pointer : Option String) : Except LoadFault (List Entity) := do
  let entries ← loadEntries source pointer
  (entries.mapM EntityEntry.toEntity).mapError .node

def loadGraph (sources : List String) (pointer : Option String) : Except LoadFault Graph := do
  let documents ← sources.mapM fun source => loadDocument source pointer
  (Graph.ofEntities? documents.flatten).mapError .name

/-- Why a run has no result. -/
inductive RunFault where
  | load (fault : LoadFault)
  | hierarchy (fault : HierarchyFault)
deriving DecidableEq, Repr

def RunFault.message : RunFault → String
  | .load fault => fault.message
  | .hierarchy fault => fault.message

/-- Compiles the graph of some documents, with what that logs. A fault of the hierarchy comes before
anything is logged. -/
def compileTraced (sources : List String) (pointer : Option String) (naming : Naming) :
    Except RunFault (Trace × Compilation) := do
  let graph ← (loadGraph sources pointer).mapError .load
  let compilation ← (graph.compile naming).mapError .hierarchy
  return (graph.trace naming compilation, compilation)

def compileSources (sources : List String) (pointer : Option String) (naming : Naming) :
    Except RunFault Compilation :=
  Prod.snd <$> compileTraced sources pointer naming

end EntityModels
