import TestImpact.Disk
import TestImpact.Failure
import TestImpact.Go.Source
import TestImpact.Listing.Ascending
import TestImpact.Text.Lowercase

/-!
# Tests of Go sources

The tests of a source are the file beside it that carries its name, and every
test file of the same directory that belongs to the package of the source or to
its external test package. A test is a smoke test if its text or its file name
contains a marker, in any letter case.
-/

namespace TestImpact.Go

open Listing (ascending)

def testEnding : String := "_test.go"

/-- Answers questions about the tests of a project. -/
structure Analyzer where
  /-- Where relative paths of tests start. -/
  root : String
  /-- The markers of smoke tests, in lower case. -/
  markers : List String
  deriving DecidableEq, Repr

namespace Analyzer

def ofRoot (root : String) : Analyzer := ⟨root, ["smoke"]⟩

def withMarkers (analyzer : Analyzer) (markers : List String) : Analyzer :=
  { analyzer with markers := markers.map Text.lowercase }

variable {m : Type → Type} [Monad m]

def packageFrom (reading : m (Except AccessError String)) : m (Option String) := do
  match ← reading with
  | .ok source => return packageOf? source
  | .error _ => return none

def packageAt (disk : Disk m) (path : String) : m (Option String) :=
  packageFrom (disk.readText path)

def belongs (disk : Disk m) (directory package : String) (name : EntryName) : m Bool := do
  if Text.endsWith name.shown testEnding then
    let declared ← packageFrom (disk.readEntry directory name)
    return declared = some package || declared = some (package ++ "_test")
  else return false

/-- The test files of a package in a directory, ascending, each under the name that is
shown for it. A directory that cannot be listed has none. -/
def packageTests (disk : Disk m) (project directory package : String) :
    m (List String) := do
  let place := Path.join project directory
  match ← disk.names place with
  | .error _ => return []
  | .ok names =>
      let members ← names.filterM (belongs disk place package)
      return ascending (members.map fun name => Path.join directory name.shown)

def siblingOf (file : String) : String :=
  Path.join ((Path.parent? file).getD "") ((Path.stem? file).getD "" ++ testEnding)

def testsOf (disk : Disk m) (project file : String) : m (List String) := do
  if Path.extension? file = some "go" then
    let sibling := siblingOf file
    let beside := if ← disk.isPresent (Path.join project sibling) then [sibling] else []
    match ← packageAt disk (Path.join project file) with
    | none => return beside
    | some package =>
        let found ← packageTests disk project ((Path.parent? file).getD "") package
        return beside ++ found.filter (· ∉ beside)
  else return []

def readTest (disk : Disk m) (analyzer : Analyzer) (test : String) :
    m (Except Failure String) := do
  let path := Path.join analyzer.root test
  match ← disk.readText path with
  | .ok text => return .ok text
  | .error cause =>
      return .error (Failure.within ⟨[cause.message]⟩ ("failed to read test file " ++ path))

def isMarked (analyzer : Analyzer) (test text : String) : Bool :=
  let lowered := Text.lowercase text
  let name := Text.lowercase ((Path.fileName? test).getD "")
  analyzer.markers.any fun marker =>
    Text.contains lowered marker || Text.contains name marker

def isSmoke (disk : Disk m) (analyzer : Analyzer) (test : String) :
    m (Except Failure Bool) := do
  return (← readTest disk analyzer test).map (analyzer.isMarked test)

def importsOfTest (disk : Disk m) (analyzer : Analyzer) (test : String) :
    m (Except Failure (List String)) := do
  return (← readTest disk analyzer test).map importsOf

end Analyzer

end TestImpact.Go
