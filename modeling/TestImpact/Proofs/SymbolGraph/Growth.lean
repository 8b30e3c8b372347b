import Mathlib.Data.Finset.Card
import Mathlib.Data.String.Basic
import TestImpact.Proofs.SymbolGraph.Addition

/-!
# Graphs that grow

Symbols and references are added to a graph in any order, from nothing or from a
snapshot. Whatever the order, the graph represents all that was added to it: each id
finds its first symbol, each file the positions of its symbols, and the counts tell
how much was added. One addition keeps what these facts rest on, and so does a run.
-/

namespace TestImpact

/-- Something that is added to a symbol graph. -/
inductive Addition where
  | symbol (symbol : Symbol)
  | reference (reference : Reference)
  deriving DecidableEq, Repr

namespace Addition

def symbols (additions : List Addition) : List Symbol :=
  additions.filterMap fun
    | .symbol added => some added
    | .reference _ => none

def references (additions : List Addition) : List Reference :=
  additions.filterMap fun
    | .symbol _ => none
    | .reference added => some added

end Addition

def Snapshot.additions (snapshot : Snapshot) : List Addition :=
  snapshot.symbols.map .symbol ++ snapshot.references.map .reference

theorem Snapshot.symbols_additions (snapshot : Snapshot) :
    Addition.symbols snapshot.additions = snapshot.symbols := by
  simp [Addition.symbols, Snapshot.additions, List.filterMap_map]

theorem Snapshot.references_additions (snapshot : Snapshot) :
    Addition.references snapshot.additions = snapshot.references := by
  simp [Addition.references, Snapshot.additions, List.filterMap_map]

namespace SymbolGraph

def add (graph : SymbolGraph) : Addition → SymbolGraph
  | .symbol added => (graph.addSymbol added).2
  | .reference added => (graph.addReference added).2

def grow (graph : SymbolGraph) (additions : List Addition) : SymbolGraph :=
  additions.foldl add graph

theorem ofSnapshot_eq_grow (snapshot : Snapshot) :
    ofSnapshot snapshot = empty.grow snapshot.additions := by
  rw [grow, Snapshot.additions, List.foldl_append, List.foldl_map, List.foldl_map]
  rfl

/-! ## What additions keep -/

/-- What a graph keeps of all that was added to it. -/
structure Grown (graph : SymbolGraph) (symbols : List Symbol) (references : List Reference) :
    Prop where
  first : ∀ id, graph.symbol? id = symbols.find? (·.id = id)
  counted : graph.referenceCount + graph.dangling = references.length

theorem Grown.empty : SymbolGraph.empty.Grown [] [] where
  first := by
    intro id
    simp [symbol?, find?, SymbolGraph.empty]
  counted := rfl

variable {graph : SymbolGraph} {symbols : List Symbol} {references : List Reference}

theorem Grown.addSymbol (grown : graph.Grown symbols references) (symbol : Symbol) :
    (graph.addSymbol symbol).2.Grown (symbols ++ [symbol]) references where
  first := by
    intro id
    rw [symbol?_addSymbol, grown.first, List.find?_append]
    simp [List.find?_singleton]
  counted := by rw [referenceCount_addSymbol, dangling_addSymbol, grown.counted]

theorem Grown.addReference (grown : graph.Grown symbols references) (reference : Reference) :
    (graph.addReference reference).2.Grown symbols (references ++ [reference]) where
  first := by
    intro id
    rw [symbol?_addReference, grown.first]
  counted := by
    rw [referenceCount_addReference, grown.counted, List.length_append, List.length_singleton]

theorem Grown.grow (grown : graph.Grown symbols references) (additions : List Addition) :
    (graph.grow additions).Grown (symbols ++ Addition.symbols additions)
      (references ++ Addition.references additions) := by
  induction additions generalizing graph symbols references with
  | nil => simpa [SymbolGraph.grow, Addition.symbols, Addition.references] using grown
  | cons addition rest ih =>
      cases addition with
      | symbol added =>
          have later := ih (grown.addSymbol added)
          rw [List.append_assoc] at later
          exact later
      | reference added =>
          have later := ih (grown.addReference added)
          rw [List.append_assoc references] at later
          exact later

theorem grown_ofSnapshot (snapshot : Snapshot) :
    (ofSnapshot snapshot).Grown snapshot.symbols snapshot.references := by
  have grown := Grown.empty.grow snapshot.additions
  rw [Snapshot.symbols_additions, Snapshot.references_additions] at grown
  rw [ofSnapshot_eq_grow]
  exact grown

/-! ## Files -/

def Declares (graph : SymbolGraph) (file : String) : Prop :=
  ∃ position found, graph.symbolAt? position = some found ∧ found.file = file

theorem mem_positionsIn_iff_symbolAt? {file : String} {position : Nat} :
    position ∈ graph.positionsIn file ↔
      ∃ found, graph.symbolAt? position = some found ∧ found.file = file := by
  rw [mem_positionsIn, symbolAt?]
  cases graph.vertices[position]? <;> simp

theorem mem_byFile {file : String} : file ∈ graph.byFile ↔ graph.Declares file := by
  rw [graph.indexed.file_mem, ← graph.indexed.file_eq]
  constructor
  · intro some
    obtain ⟨position, member⟩ := List.exists_mem_of_ne_nil _ some
    exact ⟨position, mem_positionsIn_iff_symbolAt?.mp member⟩
  · rintro ⟨position, declared⟩
    exact List.ne_nil_of_mem (mem_positionsIn_iff_symbolAt?.mpr declared)

theorem mem_files {file : String} : file ∈ graph.files ↔ graph.Declares file :=
  Std.TreeMap.mem_keys.trans mem_byFile

theorem pairwise_positionsIn (graph : SymbolGraph) (file : String) :
    (graph.positionsIn file).Pairwise (· < ·) := by
  rw [positionsIn, graph.indexed.file_eq, positionsOf]
  exact List.pairwise_lt_range.filter _

theorem pairwise_files (graph : SymbolGraph) : graph.files.Pairwise (· < ·) := by
  exact Std.TreeMap.ordered_keys.imp compare_lt_iff_lt.mp

/-! ## Ids -/

theorem Grown.isSome_find? (grown : graph.Grown symbols references) (id : String) :
    (graph.find? id).isSome = true ↔ ∃ symbol ∈ symbols, symbol.id = id := by
  rw [← isSome_symbol?, grown.first, List.find?_isSome]
  simp

def ids (graph : SymbolGraph) : List String := graph.vertices.toList.map (·.symbol.id)

theorem find?_eq_some_iff_ids {id : String} {position : Nat} :
    graph.find? id = some position ↔ graph.ids[position]? = some id := by
  rw [find?, graph.indexed.id_iff, ids, List.getElem?_map, Array.getElem?_toList,
    Option.map_eq_some_iff]

/-- No id is stored twice. -/
theorem nodup_ids (graph : SymbolGraph) : graph.ids.Nodup := by
  rw [List.nodup_iff_getElem?_ne_getElem?]
  intro first second before inside same
  have placed := List.getElem?_eq_getElem (Nat.lt_trans before inside)
  have one := find?_eq_some_iff_ids.mpr placed
  have other := find?_eq_some_iff_ids.mpr (same.symm.trans placed)
  exact absurd (Option.some.inj (one.symm.trans other)) (Nat.ne_of_lt before)

theorem mem_ids {id : String} : id ∈ graph.ids ↔ (graph.find? id).isSome = true := by
  rw [List.mem_iff_getElem?, Option.isSome_iff_exists]
  exact exists_congr fun position => find?_eq_some_iff_ids.symm

theorem Grown.symbolCount_eq (grown : graph.Grown symbols references) :
    graph.symbolCount = (symbols.map (·.id)).toFinset.card := by
  have same : (symbols.map (·.id)).toFinset = graph.ids.toFinset := by
    ext id
    rw [List.mem_toFinset, List.mem_toFinset, mem_ids, grown.isSome_find?, List.mem_map]
  rw [same, List.toFinset_card_of_nodup graph.nodup_ids, ids, List.length_map]
  rfl

/-! ## What a grown graph represents -/

/-- Each id finds the position of its symbol, and no other id finds it. The symbol is
the first that was added under the id. -/
structure FindsIds (graph : SymbolGraph) (symbols : List Symbol) : Prop where
  placed : ∀ id position, graph.find? id = some position ↔
    ∃ found, graph.symbolAt? position = some found ∧ found.id = id
  injective : ∀ one other position,
    graph.find? one = some position → graph.find? other = some position → one = other
  first : ∀ id, graph.symbol? id = symbols.find? (·.id = id)

/-- Each file lists the positions of its symbols, once and in ascending order, and the
files with symbols are listed themselves. -/
structure FindsFiles (graph : SymbolGraph) : Prop where
  positions : ∀ file position, position ∈ graph.positionsIn file ↔
    ∃ found, graph.symbolAt? position = some found ∧ found.file = file
  ascending : ∀ file, (graph.positionsIn file).Pairwise (· < ·)
  inhabited : ∀ (file : String) (bucket : List Nat),
    graph.byFile[file]? = some bucket → bucket ≠ []
  contains : ∀ file, graph.containsFile file = true ↔ graph.Declares file
  listed : ∀ file, file ∈ graph.files ↔ graph.Declares file
  sorted : graph.files.Pairwise (· < ·)

/-- What the next addition is told and leaves behind. -/
structure Answers (graph : SymbolGraph) (symbols : List Symbol) : Prop where
  repeated : ∀ added : Symbol, (∃ symbol ∈ symbols, symbol.id = added.id) →
    ∃ position, graph.find? added.id = some position ∧ graph.addSymbol added = (position, graph)
  accepted : ∀ added : Reference, (graph.addReference added).1 = true ↔
    (∃ symbol ∈ symbols, symbol.id = added.source) ∧
      ∃ symbol ∈ symbols, symbol.id = added.target
  stored : ∀ added other : Reference, (graph.addReference added).2.Stores other ↔
    graph.Stores other ∨ other = added ∧ (graph.addReference added).1 = true
  uncounted : ∀ added : Reference, (graph.addReference added).1 = true →
    (graph.addReference added).2.dangling = graph.dangling
  refused : ∀ added : Reference, (graph.addReference added).1 = false →
    (graph.addReference added).2 = { graph with dangling := graph.dangling + 1 }

/-- A graph represents the symbols and references that were added to it. -/
structure Represents (graph : SymbolGraph) (symbols : List Symbol)
    (references : List Reference) : Prop where
  ids : graph.FindsIds symbols
  files : graph.FindsFiles
  joined : ∀ position link, link ∈ graph.linksAt position →
    (graph.symbolAt? position).isSome ∧ (graph.symbolAt? link.target).isSome
  symbolCount : graph.symbolCount = (symbols.map (·.id)).toFinset.card
  referenceCount : graph.referenceCount + graph.dangling = references.length
  answers : graph.Answers symbols

theorem Grown.findsIds (grown : graph.Grown symbols references) : graph.FindsIds symbols where
  placed := fun _ _ => find?_eq_some_iff
  injective := fun _ _ _ => find?_injective
  first := grown.first

theorem findsFiles (graph : SymbolGraph) : graph.FindsFiles where
  positions := fun _ _ => mem_positionsIn_iff_symbolAt?
  ascending := graph.pairwise_positionsIn
  inhabited := by
    intro file bucket listed
    have present : file ∈ graph.byFile := by
      rw [Std.TreeMap.mem_iff_isSome_getElem?, listed]
      rfl
    have same : graph.byFile.getD file [] = bucket := by
      rw [Std.TreeMap.getD_eq_getD_getElem?, listed]
      rfl
    rw [← same, graph.indexed.file_eq]
    exact (graph.indexed.file_mem file).mp present
  contains := fun _ => Std.TreeMap.mem_iff_contains.symm.trans mem_byFile
  listed := fun _ => mem_files
  sorted := graph.pairwise_files

theorem isSome_symbolAt? {position : Nat} (inside : position < graph.vertices.size) :
    (graph.symbolAt? position).isSome := by
  rw [symbolAt?, Array.getElem?_eq_getElem inside]
  rfl

theorem Grown.answers (grown : graph.Grown symbols references) : graph.Answers symbols where
  repeated := by
    intro added earlier
    obtain ⟨position, placed⟩ :=
      Option.isSome_iff_exists.mp ((grown.isSome_find? added.id).mpr earlier)
    exact ⟨position, placed, addSymbol_known placed⟩
  accepted := by
    intro added
    rw [addReference_fst, grown.isSome_find?, grown.isSome_find?]
  stored := by
    intro added other
    rw [stores_addReference, addReference_fst, isSome_symbol?, isSome_symbol?]
  uncounted := by
    intro added accepted
    rcases graph.addReference_cases added with ⟨source, target, known, knownToo⟩ | unknown
    · exact (addReference_known known knownToo).2.2.2
    · rw [addReference_unknown unknown] at accepted
      cases accepted
  refused := by
    intro added refused
    rcases graph.addReference_cases added with ⟨source, target, known, knownToo⟩ | unknown
    · rw [(addReference_known known knownToo).1] at refused
      cases refused
    · rw [addReference_unknown unknown]

theorem Grown.represents (grown : graph.Grown symbols references) :
    graph.Represents symbols references where
  ids := grown.findsIds
  files := graph.findsFiles
  joined := by
    intro position link linked
    exact ⟨isSome_symbolAt? (source_lt linked), isSome_symbolAt? (target_lt linked)⟩
  symbolCount := grown.symbolCount_eq
  referenceCount := grown.counted
  answers := grown.answers

/-- From nothing and from a snapshot, a graph represents all that was added to it, in
whatever order symbols and references came. As any run begins with such additions, what
is said of the next one holds of every addition in a run. -/
theorem represents_grow (snapshot : Snapshot) (additions : List Addition) :
    (empty.grow additions).Represents (Addition.symbols additions)
        (Addition.references additions) ∧
      ((ofSnapshot snapshot).grow additions).Represents
        (snapshot.symbols ++ Addition.symbols additions)
        (snapshot.references ++ Addition.references additions) := by
  constructor
  · have grown := Grown.empty.grow additions
    exact grown.represents
  · exact ((grown_ofSnapshot snapshot).grow additions).represents

end SymbolGraph

end TestImpact
