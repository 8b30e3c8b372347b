import Std.Data.TreeMap
import TestImpact.SymbolGraph.Snapshot

/-!
# Indexes over stored symbols

Symbols are stored in the order in which they were added, each with the
references that it makes. Two indexes find their positions, one by id and one by
file. `Indexed` says that both agree with what is stored, and the two ways to add
to the store keep it.
-/

namespace TestImpact

/-- A stored reference, seen from its source. -/
structure Link where
  /-- Position of the symbol that is referred to. -/
  target : Nat
  kind : ReferenceKind
  deriving DecidableEq, Repr

/-- A stored symbol with the references it makes. -/
structure Vertex where
  symbol : Symbol
  links : List Link
  deriving DecidableEq, Repr

def positionsOf (vertices : Array Vertex) (file : String) : List Nat :=
  (List.range vertices.size).filter fun position =>
    vertices[position]?.any (·.symbol.file = file)

theorem mem_positionsOf {vertices : Array Vertex} {file : String} {position : Nat} :
    position ∈ positionsOf vertices file ↔
      ∃ vertex, vertices[position]? = some vertex ∧ vertex.symbol.file = file := by
  rw [positionsOf, List.mem_filter, List.mem_range, Option.any_eq_true]
  simp only [decide_eq_true_eq]
  constructor
  · rintro ⟨_, found⟩
    exact found
  · rintro ⟨vertex, stored, declares⟩
    exact ⟨(Array.getElem?_eq_some_iff.mp stored).1, vertex, stored, declares⟩

theorem positionsOf_push (vertices : Array Vertex) (vertex : Vertex) (file : String) :
    positionsOf (vertices.push vertex) file =
      positionsOf vertices file ++ if vertex.symbol.file = file then [vertices.size] else [] := by
  have earlier : (List.range vertices.size).filter
      (fun position => (vertices.push vertex)[position]?.any (·.symbol.file = file)) =
        positionsOf vertices file := by
    refine List.filter_congr fun position below => ?_
    rw [Array.getElem?_push_lt (List.mem_range.mp below),
      Array.getElem?_eq_getElem (List.mem_range.mp below)]
  rw [positionsOf, Array.size_push, List.range_succ, List.filter_append, earlier]
  by_cases declares : vertex.symbol.file = file <;> simp [declares]

/-- The positions of a file hang on the symbols alone, not on their references. -/
theorem positionsOf_congr {first second : Array Vertex} (size : first.size = second.size)
    (symbols : ∀ position : Nat,
      first[position]?.map (·.symbol) = second[position]?.map (·.symbol))
    (file : String) : positionsOf first file = positionsOf second file := by
  rw [positionsOf, positionsOf, size]
  refine List.filter_congr fun position _ => ?_
  have through (found : Option Vertex) : found.any (·.symbol.file = file) =
      (found.map (·.symbol)).any (·.file = file) := by
    cases found <;> rfl
  rw [through, through, symbols position]

/-- The indexes agree with the stored symbols, and links stay within them. -/
structure Indexed (vertices : Array Vertex) (byId : Std.TreeMap String Nat)
    (byFile : Std.TreeMap String (List Nat)) : Prop where
  id_iff : ∀ id (position : Nat), byId[id]? = some position ↔
    ∃ vertex, vertices[position]? = some vertex ∧ vertex.symbol.id = id
  file_eq : ∀ file, byFile.getD file [] = positionsOf vertices file
  /-- No file stands in the index without a symbol. -/
  file_mem : ∀ file, file ∈ byFile ↔ positionsOf vertices file ≠ []
  linked : ∀ vertex ∈ vertices, ∀ link ∈ vertex.links, link.target < vertices.size

namespace Indexed

theorem empty : Indexed #[] .empty .empty := by
  refine ⟨?_, ?_, ?_, ?_⟩
  · intro id position
    simp
  · intro file
    simp [positionsOf]
  · intro file
    simp [positionsOf]
  · intro vertex stored
    exact absurd stored (Array.not_mem_empty vertex)

variable {vertices : Array Vertex} {byId : Std.TreeMap String Nat}
  {byFile : Std.TreeMap String (List Nat)}

/-- Storing a symbol under a new id. -/
theorem push (indexed : Indexed vertices byId byFile) {symbol : Symbol}
    (new : byId[symbol.id]? = none) :
    Indexed (vertices.push ⟨symbol, []⟩) (byId.insert symbol.id vertices.size)
      (byFile.insert symbol.file (byFile.getD symbol.file [] ++ [vertices.size])) := by
  refine ⟨?_, ?_, ?_, ?_⟩
  · intro id position
    rw [Std.TreeMap.getElem?_insert, Array.getElem?_push]
    simp only [Std.LawfulEqCmp.compare_eq_iff_eq]
    by_cases last : position = vertices.size
    · subst last
      by_cases same : symbol.id = id
      · simp [same]
      · have absent : byId[id]? ≠ some vertices.size := by
          intro found
          obtain ⟨vertex, stored, _⟩ := (indexed.id_iff id vertices.size).mp found
          simp at stored
        simp [same, absent]
    · rw [if_neg last, ← indexed.id_iff]
      by_cases same : symbol.id = id
      · subst same
        simp [new, Ne.symm last]
      · simp [same]
  · intro file
    rw [Std.TreeMap.getD_insert, positionsOf_push, indexed.file_eq]
    by_cases same : symbol.file = file
    · subst same
      simp
    · simp [same, indexed.file_eq]
  · intro file
    rw [Std.TreeMap.mem_insert, positionsOf_push, indexed.file_mem]
    by_cases same : symbol.file = file <;> simp [same]
  · intro vertex stored link linked
    rw [Array.size_push]
    rcases Array.mem_push.mp stored with earlier | rfl
    · exact Nat.lt_succ_of_lt (indexed.linked vertex earlier link linked)
    · exact absurd linked List.not_mem_nil

/-- Adding a link to a stored symbol, between stored symbols. -/
theorem link (indexed : Indexed vertices byId byFile) (source : Nat) {link : Link}
    (known : link.target < vertices.size) :
    Indexed
      (vertices.modify source fun vertex => { vertex with links := link :: vertex.links })
      byId byFile := by
  have symbols (position : Nat) :
      (vertices.modify source fun vertex =>
        { vertex with links := link :: vertex.links })[position]?.map (·.symbol) =
          vertices[position]?.map (·.symbol) := by
    rw [Array.getElem?_modify]
    split <;> simp [Option.map_map, Function.comp_def]
  have positions := positionsOf_congr Array.size_modify symbols
  refine ⟨?_, ?_, ?_, ?_⟩
  · intro id position
    have bySymbol (stored : Array Vertex) :
        (∃ vertex, stored[position]? = some vertex ∧ vertex.symbol.id = id) ↔
          ∃ symbol, stored[position]?.map (·.symbol) = some symbol ∧ symbol.id = id := by
      cases stored[position]? <;> simp
    rw [indexed.id_iff, bySymbol, bySymbol, symbols]
  · intro file
    rw [indexed.file_eq, positions]
  · intro file
    rw [indexed.file_mem, positions]
  · intro vertex stored other linked
    rw [Array.size_modify]
    obtain ⟨position, found⟩ := Array.getElem?_of_mem stored
    rw [Array.getElem?_modify] at found
    split at found
    · obtain ⟨original, originally, rfl⟩ := Option.map_eq_some_iff.mp found
      rcases List.mem_cons.mp linked with rfl | earlier
      · exact known
      · exact indexed.linked original (Array.mem_of_getElem? originally) other earlier
    · exact indexed.linked vertex (Array.mem_of_getElem? found) other linked

end Indexed

end TestImpact
