import TestImpact.Path
import TestImpact.Text.Lossy

/-!
# Access to files

What the program wants to know of files goes through a `Disk`, so that the same
code runs on the files of a machine and on a tree held in memory. `FileTree` is
that tree: paths are followed piece by piece from the root, and every piece,
even an idle one, has to start from a directory. Paths are texts. The name of an
entry need not be one, and no path leads to an entry of such a name.
-/

namespace TestImpact

/-- Why a file or directory could not be used. -/
inductive AccessError where
  | notFound
  | notADirectory
  | isADirectory
  /-- The content of a file is not UTF-8. -/
  | notText
  /-- Any other refusal, in the words of the system. -/
  | refused (reason : String)
  deriving DecidableEq, Repr

def AccessError.message : AccessError → String
  | notFound => "No such file or directory (os error 2)"
  | notADirectory => "Not a directory (os error 20)"
  | isADirectory => "Is a directory (os error 21)"
  | notText => "stream did not contain valid UTF-8"
  | refused reason => reason

/-- Bytes that are not UTF-8. -/
structure RawBytes where
  bytes : List UInt8
  notText : ¬ bytes.toByteArray.IsValidUTF8
  deriving DecidableEq

/-- The name of an entry of a directory. -/
inductive EntryName where
  | text (name : String)
  | raw (name : RawBytes)
  deriving DecidableEq

def EntryName.shown : EntryName → String
  | text name => name
  | raw name => Text.lossy name.bytes

def decodeText (bytes : ByteArray) : Except AccessError String :=
  match String.fromUTF8? bytes with
  | some text => .ok text
  | none => .error .notText

/-- Questions about files. -/
structure Disk (m : Type → Type) where
  /-- The text of a file. -/
  readText : String → m (Except AccessError String)
  /-- Whether a path leads to something. -/
  isPresent : String → m Bool
  /-- The names in a directory, in any order. -/
  names : String → m (Except AccessError (List EntryName))
  /-- The text of an entry of a directory that no path leads to. -/
  readRaw : String → RawBytes → m (Except AccessError String)
  /-- The absolute path without idle pieces that leads to the same place. -/
  canonical : String → m (Except AccessError String)

def Disk.readEntry {m : Type → Type} (disk : Disk m) (directory : String) :
    EntryName → m (Except AccessError String)
  | .text name => disk.readText (Path.join directory name)
  | .raw name => disk.readRaw directory name

/-- A file or directory held in memory. -/
inductive FileTree where
  | file (content : ByteArray)
  | directory (children : List (EntryName × FileTree))

namespace FileTree

def empty : FileTree := .directory []

def child? : FileTree → EntryName → Option FileTree
  | .file _, _ => none
  | .directory children, name => children.lookup name

/-- Follows pieces from a place. The place and the named directories above it are
kept, the nearest first, so that a pair of dots can go back; the root is above
itself. -/
def follow (place : FileTree) (above : List (String × FileTree)) :
    List String → Except AccessError (FileTree × List (String × FileTree))
  | [] => .ok (place, above)
  | piece :: rest =>
      match place with
      | .file _ => .error .notADirectory
      | .directory _ =>
          if piece = "" ∨ piece = "." then follow place above rest
          else if piece = ".." then
            match above with
            | [] => follow place [] rest
            | (_, parent) :: further => follow parent further rest
          else
            match place.child? (.text piece) with
            | some next => follow next ((piece, place) :: above) rest
            | none => .error .notFound

/-- Finds what a path leads to, from the given directory if the path is relative.
An empty path leads nowhere. -/
def locate (root : FileTree) (directory path : String) :
    Except AccessError (FileTree × List (String × FileTree)) :=
  if path = "" then .error .notFound
  else
    follow root [] ((Path.pieces (Path.join directory path).toList).map String.ofList)

def readContent : FileTree → Except AccessError String
  | .directory _ => .error .isADirectory
  | .file content => decodeText content

def readText (root : FileTree) (directory path : String) : Except AccessError String := do
  (← root.locate directory path).1.readContent

def readRaw (root : FileTree) (directory path : String) (name : RawBytes) :
    Except AccessError String := do
  match (← root.locate directory path).1.child? (.raw name) with
  | some entry => entry.readContent
  | none => .error .notFound

def names (root : FileTree) (directory path : String) :
    Except AccessError (List EntryName) := do
  match (← root.locate directory path).1 with
  | .file _ => .error .notADirectory
  | .directory children => .ok (children.map Prod.fst)

def canonical (root : FileTree) (directory path : String) : Except AccessError String := do
  let (_, above) ← root.locate directory path
  return "/" ++ "/".intercalate (above.reverse.map Prod.fst)

/-- Answers questions from the tree; relative paths start at the given directory. -/
def disk (root : FileTree) (directory : String) : Disk Id where
  readText path := root.readText directory path
  isPresent path := (root.locate directory path).isOk
  names path := root.names directory path
  readRaw path name := root.readRaw directory path name
  canonical path := root.canonical directory path

mutual

/-- Puts a tree under the names on the way to it, making the directories on the way. -/
def place (content : FileTree) : List EntryName → FileTree → FileTree
  | [], _ => content
  | name :: rest, .file _ => .directory [(name, place content rest .empty)]
  | name :: rest, .directory children => .directory (placeIn content name rest children)

def placeIn (content : FileTree) (name : EntryName) (rest : List EntryName) :
    List (EntryName × FileTree) → List (EntryName × FileTree)
  | [] => [(name, place content rest .empty)]
  | (other, tree) :: others =>
      if other = name then (other, place content rest tree) :: others
      else (other, tree) :: placeIn content name rest others

end

end FileTree

end TestImpact
