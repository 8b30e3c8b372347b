import TestImpact.Disk
import TestImpact.SymbolGraph.Basic

/-!
# Where symbol graphs come from

A graph is built for a project, usually from a snapshot file that an indexer left
there. A project without the file is told apart from one whose file cannot be
read, and from one whose file holds something else.
-/

namespace TestImpact

/-- Why there is no graph, or no answer from one. -/
inductive GraphError where
  | build (reason : String)
  | snapshotNotFound (path : String)
  | cancelled
  | access (cause : AccessError)
  | malformedSnapshot (fault : Json.Fault)
  deriving DecidableEq, Repr

def GraphError.message : GraphError → String
  | build reason => "Graph build error: " ++ reason
  | snapshotNotFound path => "Snapshot not found: " ++ path
  | cancelled => "Traversal cancelled"
  | access cause => "IO error: " ++ cause.message
  | malformedSnapshot _ => "Serialization error"

def Snapshot.parse (text : String) : Except GraphError Snapshot :=
  match Snapshot.codec.decode text with
  | .ok snapshot => .ok snapshot
  | .error fault => .error (.malformedSnapshot fault)

/-- A file that holds the snapshot of a project. -/
structure SnapshotFile where
  /-- The path of the file, from the project unless absolute; the usual place if
  none is given. -/
  path? : Option String
  deriving DecidableEq, Repr

namespace SnapshotFile

def usualPath : String := ".context/symbol_graph.json"

def pathIn (file : SnapshotFile) (project : String) : String :=
  Path.join project (file.path?.getD usualPath)

def load {m : Type → Type} [Monad m] (disk : Disk m) (file : SnapshotFile)
    (project : String) : m (Except GraphError SymbolGraph) := do
  let path := file.pathIn project
  match ← disk.readText path with
  | .error .notFound => return .error (.snapshotNotFound path)
  | .error cause => return .error (.access cause)
  | .ok text => return (Snapshot.parse text).map SymbolGraph.ofSnapshot

end SnapshotFile

end TestImpact
