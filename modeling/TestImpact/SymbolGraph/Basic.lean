import TestImpact.SymbolGraph.Index

/-!
# The symbol graph

A graph stores each symbol once, by its first declaration, and finds it by id
and by file. References whose ends are not both known are left out and counted.
Symbols and references can be added in any order; a snapshot is added symbols
first.
-/

namespace TestImpact

/-- Symbols with look-up by id and by file. -/
structure SymbolGraph where
  /-- The symbols in the order in which they were added. -/
  vertices : Array Vertex
  /-- The position of the symbol with an id. -/
  byId : Std.TreeMap String Nat
  /-- The positions of the symbols that a file declares, ascending. -/
  byFile : Std.TreeMap String (List Nat)
  /-- How many references were left out. -/
  dangling : Nat
  indexed : Indexed vertices byId byFile

namespace SymbolGraph

def empty : SymbolGraph := ⟨#[], .empty, .empty, 0, .empty⟩

instance : Inhabited SymbolGraph := ⟨empty⟩

def find? (graph : SymbolGraph) (id : String) : Option Nat := graph.byId[id]?

def symbolAt? (graph : SymbolGraph) (position : Nat) : Option Symbol :=
  graph.vertices[position]?.map (·.symbol)

def symbol? (graph : SymbolGraph) (id : String) : Option Symbol :=
  graph.find? id >>= graph.symbolAt?

/-- Adds a symbol and gives its position. An id that is known keeps its first
symbol, and nothing changes. -/
def addSymbol (graph : SymbolGraph) (symbol : Symbol) : Nat × SymbolGraph :=
  match new : graph.find? symbol.id with
  | some position => (position, graph)
  | none =>
      let position := graph.vertices.size
      (position,
        { graph with
          vertices := graph.vertices.push ⟨symbol, []⟩
          byId := graph.byId.insert symbol.id position
          byFile := graph.byFile.insert symbol.file
            (graph.byFile.getD symbol.file [] ++ [position])
          indexed := graph.indexed.push new })

theorem find?_lt {graph : SymbolGraph} {id : String} {position : Nat}
    (found : graph.find? id = some position) : position < graph.vertices.size := by
  obtain ⟨vertex, stored, _⟩ := (graph.indexed.id_iff id position).mp found
  exact (Array.getElem?_eq_some_iff.mp stored).1

def addReference (graph : SymbolGraph) (reference : Reference) : Bool × SymbolGraph :=
  match graph.find? reference.source, target : graph.find? reference.target with
  | some source, some position =>
      (true,
        { graph with
          vertices := graph.vertices.modify source fun vertex =>
            { vertex with links := ⟨position, reference.kind⟩ :: vertex.links }
          indexed := graph.indexed.link source (find?_lt target) })
  | _, _ => (false, { graph with dangling := graph.dangling + 1 })

def ofSnapshot (snapshot : Snapshot) : SymbolGraph :=
  let symbols := snapshot.symbols.foldl (fun graph symbol => (graph.addSymbol symbol).2) empty
  snapshot.references.foldl (fun graph reference => (graph.addReference reference).2) symbols

def symbolCount (graph : SymbolGraph) : Nat := graph.vertices.size

def referenceCount (graph : SymbolGraph) : Nat :=
  graph.vertices.toList.foldl (fun count vertex => count + vertex.links.length) 0

def isEmpty (graph : SymbolGraph) : Bool := graph.symbolCount = 0

def containsFile (graph : SymbolGraph) (file : String) : Bool := graph.byFile.contains file

def files (graph : SymbolGraph) : List String := graph.byFile.keys

def positionsIn (graph : SymbolGraph) (file : String) : List Nat := graph.byFile.getD file []

def linksAt (graph : SymbolGraph) (position : Nat) : List Link :=
  ((graph.vertices[position]?).map (·.links)).getD []

end SymbolGraph

end TestImpact
