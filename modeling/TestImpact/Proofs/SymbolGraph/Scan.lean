import Mathlib.Data.List.Sort
import TestImpact.Proofs.SymbolGraph.Growth

/-!
# Indexes against a scan

Which files a file references can be read off a snapshot by going through all its
references and looking up the ends of each among all its symbols. A graph answers the
same from its indexes. Both rest on the references that the graph stores, which are
those of the snapshot whose ends have a symbol.
-/

namespace TestImpact

open Listing

namespace Snapshot

def symbol? (snapshot : Snapshot) (id : String) : Option Symbol :=
  snapshot.symbols.find? (·.id = id)

def Joins (snapshot : Snapshot) (source target : String) : Prop :=
  ∃ reference ∈ snapshot.references,
    (snapshot.symbol? reference.source).map (·.file) = some source ∧
      (snapshot.symbol? reference.target).map (·.file) = some target

/-- The file that a reference leads to, if it starts in a file and leaves it. -/
def leaves? (snapshot : Snapshot) (file : String) (reference : Reference) : Option String := do
  let source ← snapshot.symbol? reference.source
  let target ← snapshot.symbol? reference.target
  if source.file = file ∧ target.file ≠ file then some target.file else none

/-- The files that the symbols of a file reference, from all symbols and references. -/
def scan (snapshot : Snapshot) (file : String) : List String :=
  ascending (snapshot.references.filterMap (snapshot.leaves? file))

theorem leaves?_eq_some_iff {snapshot : Snapshot} {file other : String} {reference : Reference} :
    snapshot.leaves? file reference = some other ↔ other ≠ file ∧
      (snapshot.symbol? reference.source).map (·.file) = some file ∧
        (snapshot.symbol? reference.target).map (·.file) = some other := by
  rw [leaves?]
  cases snapshot.symbol? reference.source with
  | none => simp
  | some source =>
      cases snapshot.symbol? reference.target with
      | none => simp
      | some target =>
          simp only [Option.bind_eq_bind, Option.bind_some, Option.map_some, Option.some.injEq,
            Option.ite_none_right_eq_some]
          constructor
          · rintro ⟨⟨starts, left⟩, rfl⟩
            exact ⟨left, starts, rfl⟩
          · rintro ⟨left, starts, rfl⟩
            exact ⟨⟨starts, left⟩, rfl⟩

theorem mem_scan {snapshot : Snapshot} {file other : String} :
    other ∈ snapshot.scan file ↔ other ≠ file ∧ snapshot.Joins file other := by
  rw [scan, mem_ascending, List.mem_filterMap]
  simp only [leaves?_eq_some_iff, Joins]
  constructor
  · rintro ⟨reference, member, left, ends⟩
    exact ⟨left, reference, member, ends⟩
  · rintro ⟨left, reference, member, ends⟩
    exact ⟨reference, member, left, ends⟩

end Snapshot

namespace SymbolGraph

variable {graph : SymbolGraph}

/-- The steps from file to file are those of the stored references. -/
theorem fileStep_iff_stores {source target : String} :
    graph.FileStep source target ↔ source ≠ target ∧ ∃ reference, graph.Stores reference ∧
      (graph.symbol? reference.source).map (·.file) = some source ∧
        (graph.symbol? reference.target).map (·.file) = some target := by
  refine and_congr_right fun _ => ?_
  constructor
  · rintro ⟨vertex, member, declares, link, linked, symbol, stored, declared⟩
    obtain ⟨position, placed⟩ := Array.getElem?_of_mem member
    have origin : graph.symbolAt? position = some vertex.symbol := by
      rw [symbolAt?, placed]
      rfl
    have starts := symbol?_eq_some_iff.mpr ⟨position, origin, rfl⟩
    have ends := symbol?_eq_some_iff.mpr ⟨link.target, stored, rfl⟩
    refine ⟨⟨vertex.symbol.id, symbol.id, link.kind⟩, ?_, ?_, ?_⟩
    · exact ⟨position, link.target, find?_eq_some_iff.mpr ⟨_, origin, rfl⟩,
        find?_eq_some_iff.mpr ⟨_, stored, rfl⟩, mem_linksAt.mpr ⟨vertex, placed, linked⟩⟩
    · rw [starts, Option.map_some, declares]
    · rw [ends, Option.map_some, declared]
  · rintro ⟨reference, ⟨position, goal, known, knownToo, linked⟩, starts, ends⟩
    obtain ⟨vertex, placed, member⟩ := mem_linksAt.mp linked
    rw [symbol?, known, Option.bind_eq_bind, Option.bind_some, symbolAt?, placed] at starts
    rw [symbol?, knownToo, Option.bind_eq_bind, Option.bind_some] at ends
    obtain ⟨symbol, stored, declared⟩ := Option.map_eq_some_iff.mp ends
    exact ⟨vertex, Array.mem_of_getElem? placed, Option.some.inj starts, _, member, symbol,
      stored, declared⟩

/-! ## The references of a snapshot -/

theorem stores_empty (reference : Reference) : ¬ empty.Stores reference := by
  rintro ⟨_, _, _, _, linked⟩
  exact absurd (source_lt linked) (Nat.not_lt_zero _)

theorem stores_grow_symbols (symbols : List Symbol) (reference : Reference) :
    (graph.grow (symbols.map .symbol)).Stores reference ↔ graph.Stores reference := by
  induction symbols generalizing graph with
  | nil => rfl
  | cons symbol rest ih => exact ih.trans (graph.stores_addSymbol symbol reference)

/-- References alone leave the ids as they are, so all are held against the same ids. -/
theorem stores_grow_references (references : List Reference) (other : Reference) :
    (graph.grow (references.map .reference)).Stores other ↔
      graph.Stores other ∨ other ∈ references ∧
        (graph.symbol? other.source).isSome ∧ (graph.symbol? other.target).isSome := by
  induction references generalizing graph with
  | nil => simp [grow]
  | cons reference rest ih =>
      refine ih.trans ?_
      rw [add, symbol?_addReference, symbol?_addReference, stores_addReference]
      rw [List.mem_cons, or_assoc, or_and_right]
      refine or_congr_right (or_congr_left (and_congr_right ?_))
      rintro rfl
      rfl

theorem stores_ofSnapshot (snapshot : Snapshot) (reference : Reference) :
    (ofSnapshot snapshot).Stores reference ↔ reference ∈ snapshot.references ∧
      (snapshot.symbol? reference.source).isSome ∧
        (snapshot.symbol? reference.target).isSome := by
  have grown := Grown.empty.grow (snapshot.symbols.map .symbol)
  have symbols : Addition.symbols (snapshot.symbols.map .symbol) = snapshot.symbols := by
    simp [Addition.symbols, List.filterMap_map]
  rw [symbols, List.nil_append] at grown
  have phases : ofSnapshot snapshot = (empty.grow (snapshot.symbols.map .symbol)).grow
      (snapshot.references.map .reference) := by
    rw [ofSnapshot_eq_grow, grow, Snapshot.additions, List.foldl_append]
    rfl
  rw [phases, stores_grow_references, stores_grow_symbols, grown.first, grown.first]
  exact or_iff_right (stores_empty reference)

theorem fileStep_ofSnapshot {snapshot : Snapshot} {source target : String} :
    (ofSnapshot snapshot).FileStep source target ↔
      source ≠ target ∧ snapshot.Joins source target := by
  have first := (grown_ofSnapshot snapshot).first
  rw [fileStep_iff_stores]
  refine and_congr_right fun _ => exists_congr fun reference => ?_
  rw [stores_ofSnapshot, first, first, Snapshot.symbol?, Snapshot.symbol?]
  constructor
  · rintro ⟨⟨member, _, _⟩, ends⟩
    exact ⟨member, ends⟩
  · rintro ⟨member, starts, ends⟩
    have known := congrArg Option.isSome starts
    have knownToo := congrArg Option.isSome ends
    rw [Option.isSome_map] at known knownToo
    exact ⟨⟨member, known, knownToo⟩, starts, ends⟩

/-- The indexes of a graph answer what a scan of its snapshot does: the files, strictly
ascending, that some reference leads to from the file. -/
theorem filesReferencedBy_ofSnapshot (snapshot : Snapshot) (file : String) :
    (ofSnapshot snapshot).filesReferencedBy file = snapshot.scan file ∧
      (snapshot.scan file).Pairwise (· < ·) ∧
        ∀ other, other ∈ snapshot.scan file ↔ other ≠ file ∧ snapshot.Joins file other := by
  have sorted : (snapshot.scan file).Pairwise (· < ·) := pairwise_ascending _
  refine ⟨?_, sorted, fun _ => Snapshot.mem_scan⟩
  refine List.Pairwise.eq_of_mem_iff (pairwise_ascending _) sorted fun other => ?_
  refine mem_filesReferencedBy.trans ?_
  rw [fileStep_ofSnapshot, Snapshot.mem_scan, ne_comm]

end SymbolGraph

end TestImpact
