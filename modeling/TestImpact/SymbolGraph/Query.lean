import Std.Data.TreeSet
import TestImpact.Reach.Steps
import TestImpact.SymbolGraph.Basic

/-!
# Questions to a symbol graph

Symbols are listed by id, each once. A file references another file when one of
its symbols references a symbol of that file; these steps between files are what
a walk follows.
-/

namespace TestImpact.SymbolGraph

open Listing

def notBehind (first second : Symbol) : Bool := first.id ≤ second.id

/-- What is left behind a symbol with an id when nothing may have the id of what stands
right before it. -/
def dropRepeatsOf (id : String) : List Symbol → List Symbol
  | [] => []
  | symbol :: rest =>
      if symbol.id = id then dropRepeatsOf id rest
      else symbol :: dropRepeatsOf symbol.id rest

def dropRepeats : List Symbol → List Symbol
  | [] => []
  | symbol :: rest => symbol :: dropRepeatsOf symbol.id rest

/-- The symbols at a set of positions. Each position has a symbol of its own, so none is
listed twice. -/
def neighboursAt (graph : SymbolGraph) (positions : List Nat) : List Symbol :=
  ((Std.TreeSet.ofList positions).toList.filterMap graph.symbolAt?).mergeSort notBehind

/-- The positions from which links lead to a position, once for each link. -/
def sourcesAt (graph : SymbolGraph) (position : Nat) : List Nat :=
  (List.range graph.symbolCount).flatMap fun source =>
    ((graph.linksAt source).filter (·.target = position)).map fun _ => source

def dependenciesOf (graph : SymbolGraph) (id : String) : List Symbol :=
  match graph.find? id with
  | some position => graph.neighboursAt ((graph.linksAt position).map (·.target))
  | none => []

def dependentsOf (graph : SymbolGraph) (id : String) : List Symbol :=
  match graph.find? id with
  | some position => graph.neighboursAt (graph.sourcesAt position)
  | none => []

/-- The symbols that a symbol references in one way. Here links of one kind to one symbol
come together only once they are in order. -/
def referencesOfKind (graph : SymbolGraph) (id : String) (kind : ReferenceKind) :
    List Symbol :=
  match graph.find? id with
  | some position =>
      let links := (graph.linksAt position).filter (·.kind = kind)
      dropRepeats ((links.filterMap fun link => graph.symbolAt? link.target).mergeSort notBehind)
  | none => []

/-- The files that the symbols of a file reference, ascending, without the file
itself. -/
def filesReferencedBy (graph : SymbolGraph) (file : String) : List String :=
  let targets := (graph.positionsIn file).flatMap fun position =>
    (graph.linksAt position).filterMap fun link => graph.symbolAt? link.target
  ascending ((targets.map (·.file)).filter (· ≠ file))

/-- One file references another: a symbol that it declares is linked to a symbol
that the other declares. -/
def FileStep (graph : SymbolGraph) (source target : String) : Prop :=
  source ≠ target ∧
    ∃ vertex ∈ graph.vertices, vertex.symbol.file = source ∧
      ∃ link ∈ vertex.links, ∃ symbol,
        graph.symbolAt? link.target = some symbol ∧ symbol.file = target

theorem mem_positionsIn {graph : SymbolGraph} {file : String} {position : Nat} :
    position ∈ graph.positionsIn file ↔
      ∃ vertex, graph.vertices[position]? = some vertex ∧ vertex.symbol.file = file := by
  rw [positionsIn, graph.indexed.file_eq, mem_positionsOf]

theorem mem_linksAt {graph : SymbolGraph} {position : Nat} {link : Link} :
    link ∈ graph.linksAt position ↔
      ∃ vertex, graph.vertices[position]? = some vertex ∧ link ∈ vertex.links := by
  rw [linksAt]
  cases graph.vertices[position]? <;> simp

theorem mem_filesReferencedBy {graph : SymbolGraph} {source target : String} :
    target ∈ graph.filesReferencedBy source ↔ graph.FileStep source target := by
  simp only [filesReferencedBy, mem_ascending, List.mem_filter, List.mem_map,
    List.mem_flatMap, List.mem_filterMap, mem_positionsIn, mem_linksAt, decide_eq_true_eq]
  constructor
  · rintro ⟨⟨symbol, ⟨position, ⟨declarer, stored, declares⟩, link, ⟨vertex, same, linked⟩,
      found⟩, declared⟩, other⟩
    obtain rfl : declarer = vertex := Option.some.inj (stored.symm.trans same)
    exact ⟨Ne.symm other, declarer, Array.mem_of_getElem? stored, declares, link, linked,
      symbol, found, declared⟩
  · rintro ⟨other, vertex, stored, declares, link, linked, symbol, found, declared⟩
    obtain ⟨position, placed⟩ := Array.getElem?_of_mem stored
    exact ⟨⟨symbol, ⟨position, ⟨vertex, placed, declares⟩, link,
      ⟨vertex, placed, linked⟩, found⟩, declared⟩, Ne.symm other⟩

theorem filesReferencedBy_of_not_mem (graph : SymbolGraph) (file : String)
    (undeclared : file ∉ graph.files) : graph.filesReferencedBy file = [] := by
  have absent : file ∉ graph.byFile := fun present =>
    undeclared (Std.TreeMap.mem_keys.2 present)
  have noPositions : graph.positionsIn file = [] :=
    Std.TreeMap.getD_eq_fallback absent
  simp [filesReferencedBy, noPositions, ascending]

def steps (graph : SymbolGraph) : Reach.Steps where
  files := graph.files
  next := graph.filesReferencedBy
  next_outside := graph.filesReferencedBy_of_not_mem

end TestImpact.SymbolGraph
