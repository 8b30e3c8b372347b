import TestImpact.SymbolGraph.Query

/-!
# What one addition does to a symbol graph

A symbol under a new id is stored behind the others, and one under a known id is
passed over. A reference between known ids becomes a link, and any other is only
counted. Each lemma tells one of these effects, or what an addition leaves alone.
-/

namespace TestImpact.SymbolGraph

variable {graph : SymbolGraph} {symbol : Symbol} {reference : Reference}

theorem find?_eq_some_iff {id : String} {position : Nat} :
    graph.find? id = some position ↔
      ∃ found, graph.symbolAt? position = some found ∧ found.id = id := by
  rw [find?, graph.indexed.id_iff, symbolAt?]
  cases graph.vertices[position]? <;> simp

/-- Two ids do not share a position. -/
theorem find?_injective {first second : String} {position : Nat}
    (one : graph.find? first = some position) (other : graph.find? second = some position) :
    first = second := by
  obtain ⟨found, stored, named⟩ := find?_eq_some_iff.mp one
  obtain ⟨same, restored, renamed⟩ := find?_eq_some_iff.mp other
  obtain rfl := Option.some.inj (stored.symm.trans restored)
  exact named.symm.trans renamed

theorem symbol?_eq_some_iff {id : String} {found : Symbol} :
    graph.symbol? id = some found ↔
      ∃ position, graph.symbolAt? position = some found ∧ found.id = id := by
  rw [symbol?, Option.bind_eq_bind, Option.bind_eq_some_iff]
  constructor
  · rintro ⟨position, placed, stored⟩
    obtain ⟨same, restored, named⟩ := find?_eq_some_iff.mp placed
    obtain rfl := Option.some.inj (stored.symm.trans restored)
    exact ⟨position, stored, named⟩
  · rintro ⟨position, stored, named⟩
    exact ⟨position, find?_eq_some_iff.mpr ⟨found, stored, named⟩, stored⟩

theorem isSome_symbol? (graph : SymbolGraph) (id : String) :
    (graph.symbol? id).isSome = (graph.find? id).isSome := by
  cases placed : graph.find? id with
  | none => rw [symbol?, placed]; rfl
  | some position =>
      obtain ⟨found, stored, _⟩ := find?_eq_some_iff.mp placed
      rw [symbol?, placed, Option.bind_eq_bind, Option.bind_some, stored]
      rfl

/-! ## Symbols -/

/-- A symbol under a known id changes nothing. -/
theorem addSymbol_known {position : Nat} (known : graph.find? symbol.id = some position) :
    graph.addSymbol symbol = (position, graph) := by
  unfold addSymbol
  split
  · rename_i other found
    rw [Option.some.inj (known.symm.trans found)]
  · rename_i absent
    rw [known] at absent
    cases absent

/-- A symbol under a new id is stored last, without links. -/
theorem addSymbol_new (new : graph.find? symbol.id = none) :
    (graph.addSymbol symbol).1 = graph.vertices.size ∧
      (graph.addSymbol symbol).2.vertices = graph.vertices.push ⟨symbol, []⟩ ∧
      (graph.addSymbol symbol).2.byId = graph.byId.insert symbol.id graph.vertices.size ∧
      (graph.addSymbol symbol).2.dangling = graph.dangling := by
  unfold addSymbol
  split
  · rename_i found
    rw [new] at found
    cases found
  · exact ⟨rfl, rfl, rfl, rfl⟩

theorem find?_addSymbol_new (new : graph.find? symbol.id = none) (id : String) :
    (graph.addSymbol symbol).2.find? id =
      if symbol.id = id then some graph.vertices.size else graph.find? id := by
  obtain ⟨_, _, byId, _⟩ := addSymbol_new new
  rw [find?, byId, Std.TreeMap.getElem?_insert]
  simp only [Std.LawfulEqCmp.compare_eq_iff_eq]
  rfl

theorem symbolAt?_addSymbol_new (new : graph.find? symbol.id = none) (position : Nat) :
    (graph.addSymbol symbol).2.symbolAt? position =
      if position = graph.vertices.size then some symbol else graph.symbolAt? position := by
  obtain ⟨_, vertices, _, _⟩ := addSymbol_new new
  rw [symbolAt?, vertices, Array.getElem?_push]
  split <;> rfl

/-- The first symbol under an id stays. -/
theorem symbol?_addSymbol (graph : SymbolGraph) (symbol : Symbol) (id : String) :
    (graph.addSymbol symbol).2.symbol? id =
      (graph.symbol? id).or (if symbol.id = id then some symbol else none) := by
  cases placed : graph.find? symbol.id with
  | some position =>
      rw [addSymbol_known placed]
      split
      · rename_i same
        have known : (graph.symbol? id).isSome = true := by
          rw [isSome_symbol?, ← same, placed]
          rfl
        obtain ⟨found, first⟩ := Option.isSome_iff_exists.mp known
        rw [first, Option.some_or]
      · rw [Option.or_none]
  | none =>
      rw [symbol?, find?_addSymbol_new placed]
      split
      · rename_i same
        have unknown : graph.symbol? id = none := by
          rw [symbol?, ← same, placed]
          rfl
        rw [unknown, Option.none_or]
        exact (symbolAt?_addSymbol_new placed _).trans (if_pos rfl)
      · rw [Option.or_none, symbol?]
        cases known : graph.find? id with
        | none => rfl
        | some position =>
            have earlier : position ≠ graph.vertices.size := Nat.ne_of_lt (find?_lt known)
            exact (symbolAt?_addSymbol_new placed position).trans (if_neg earlier)

theorem linksAt_addSymbol (graph : SymbolGraph) (symbol : Symbol) (position : Nat) :
    (graph.addSymbol symbol).2.linksAt position = graph.linksAt position := by
  cases placed : graph.find? symbol.id with
  | some known => rw [addSymbol_known placed]
  | none =>
      obtain ⟨_, vertices, _, _⟩ := addSymbol_new placed
      rw [linksAt, vertices, Array.getElem?_push]
      split
      · rename_i last
        rw [linksAt, last, Array.getElem?_eq_none (Nat.le_refl _)]
        rfl
      · rfl

/-! ## References -/

/-- A reference between known ids becomes a link of its source. -/
theorem addReference_known {source target : Nat} (known : graph.find? reference.source = some source)
    (knownToo : graph.find? reference.target = some target) :
    (graph.addReference reference).1 = true ∧
      (graph.addReference reference).2.vertices = graph.vertices.modify source (fun vertex =>
        { vertex with links := ⟨target, reference.kind⟩ :: vertex.links }) ∧
      (graph.addReference reference).2.byId = graph.byId ∧
      (graph.addReference reference).2.dangling = graph.dangling := by
  unfold addReference
  split
  · rename_i other another found foundToo
    obtain rfl := Option.some.inj (known.symm.trans found)
    obtain rfl := Option.some.inj (knownToo.symm.trans foundToo)
    exact ⟨rfl, rfl, rfl, rfl⟩
  · rename_i unmatched
    exact absurd knownToo (unmatched source target known)

/-- A reference with an unknown end is counted and does nothing else. -/
theorem addReference_unknown
    (unknown : graph.find? reference.source = none ∨ graph.find? reference.target = none) :
    graph.addReference reference = (false, { graph with dangling := graph.dangling + 1 }) := by
  unfold addReference
  split
  · rename_i source target known knownToo
    rw [known, knownToo] at unknown
    exact unknown.elim nofun nofun
  · rfl

/-- What becomes of a reference hangs on whether both its ends are known. -/
theorem addReference_cases (graph : SymbolGraph) (reference : Reference) :
    (∃ source target, graph.find? reference.source = some source ∧
      graph.find? reference.target = some target) ∨
    (graph.find? reference.source = none ∨ graph.find? reference.target = none) := by
  cases graph.find? reference.source with
  | none => exact Or.inr (Or.inl rfl)
  | some source =>
      cases graph.find? reference.target with
      | none => exact Or.inr (Or.inr rfl)
      | some target => exact Or.inl ⟨source, target, rfl, rfl⟩

/-- A reference is stored exactly if both its ends are known. -/
theorem addReference_fst (graph : SymbolGraph) (reference : Reference) :
    (graph.addReference reference).1 = true ↔
      (graph.find? reference.source).isSome = true ∧ (graph.find? reference.target).isSome = true := by
  rcases graph.addReference_cases reference with ⟨source, target, known, knownToo⟩ | unknown
  · simp [(addReference_known known knownToo).1, known, knownToo]
  · rw [addReference_unknown unknown]
    rcases unknown with none | none <;> simp [none]

theorem find?_addReference (graph : SymbolGraph) (reference : Reference) (id : String) :
    (graph.addReference reference).2.find? id = graph.find? id := by
  rcases graph.addReference_cases reference with ⟨_, _, known, knownToo⟩ | unknown
  · rw [find?, (addReference_known known knownToo).2.2.1, find?]
  · rw [addReference_unknown unknown]
    rfl

theorem symbolAt?_addReference (graph : SymbolGraph) (reference : Reference) (position : Nat) :
    (graph.addReference reference).2.symbolAt? position = graph.symbolAt? position := by
  rcases graph.addReference_cases reference with ⟨_, _, known, knownToo⟩ | unknown
  · rw [symbolAt?, (addReference_known known knownToo).2.1, Array.getElem?_modify, symbolAt?]
    split <;> simp [Option.map_map, Function.comp_def]
  · rw [addReference_unknown unknown]
    rfl

theorem symbol?_addReference (graph : SymbolGraph) (reference : Reference) (id : String) :
    (graph.addReference reference).2.symbol? id = graph.symbol? id := by
  rw [symbol?, symbol?, find?_addReference]
  exact congrArg _ (funext (graph.symbolAt?_addReference reference))

theorem linksAt_addReference_known {source target : Nat}
    (known : graph.find? reference.source = some source)
    (knownToo : graph.find? reference.target = some target) (position : Nat) :
    (graph.addReference reference).2.linksAt position =
      if source = position then ⟨target, reference.kind⟩ :: graph.linksAt position
      else graph.linksAt position := by
  rw [linksAt, (addReference_known known knownToo).2.1, Array.getElem?_modify, linksAt]
  split
  · rename_i same
    have inside : position < graph.vertices.size := same ▸ find?_lt known
    rw [Array.getElem?_eq_getElem inside]
    rfl
  · rfl

theorem mem_linksAt_addReference_known {source target : Nat}
    (known : graph.find? reference.source = some source)
    (knownToo : graph.find? reference.target = some target) {position : Nat} {link : Link} :
    link ∈ (graph.addReference reference).2.linksAt position ↔
      (position = source ∧ link = ⟨target, reference.kind⟩) ∨ link ∈ graph.linksAt position := by
  rw [linksAt_addReference_known known knownToo]
  split
  · rename_i same
    rw [List.mem_cons, and_iff_right same.symm]
  · rename_i apart
    rw [or_iff_right fun new => apart new.1.symm]

/-! ## Counts -/

/-- What was counted before stands apart. -/
theorem foldl_links_add (vertices : List Vertex) (earlier more : Nat) :
    vertices.foldl (fun count vertex => count + vertex.links.length) (earlier + more) =
      vertices.foldl (fun count vertex => count + vertex.links.length) earlier + more := by
  induction vertices generalizing earlier with
  | nil => rfl
  | cons vertex rest ih =>
      rw [List.foldl_cons, List.foldl_cons, Nat.add_right_comm]
      exact ih (earlier + vertex.links.length)

theorem foldl_links_modify (vertices : List Vertex) (link : Link) {source : Nat}
    (inside : source < vertices.length) (earlier : Nat) :
    (vertices.modify source fun vertex => { vertex with links := link :: vertex.links }).foldl
        (fun count vertex => count + vertex.links.length) earlier =
      vertices.foldl (fun count vertex => count + vertex.links.length) earlier + 1 := by
  induction vertices generalizing source earlier with
  | nil => exact absurd inside (Nat.not_lt_zero source)
  | cons vertex rest ih =>
      cases source with
      | zero => exact foldl_links_add rest (earlier + vertex.links.length) 1
      | succ source => exact ih (Nat.lt_of_succ_lt_succ inside) (earlier + vertex.links.length)

theorem dangling_addSymbol (graph : SymbolGraph) (symbol : Symbol) :
    (graph.addSymbol symbol).2.dangling = graph.dangling := by
  cases placed : graph.find? symbol.id with
  | some position => rw [addSymbol_known placed]
  | none => exact (addSymbol_new placed).2.2.2

theorem referenceCount_addSymbol (graph : SymbolGraph) (symbol : Symbol) :
    (graph.addSymbol symbol).2.referenceCount = graph.referenceCount := by
  cases placed : graph.find? symbol.id with
  | some position => rw [addSymbol_known placed]
  | none =>
      rw [referenceCount, (addSymbol_new placed).2.1, Array.toList_push, List.foldl_append]
      rfl

/-- Every reference is counted once, as stored or as left out. -/
theorem referenceCount_addReference (graph : SymbolGraph) (reference : Reference) :
    (graph.addReference reference).2.referenceCount + (graph.addReference reference).2.dangling =
      graph.referenceCount + graph.dangling + 1 := by
  rcases graph.addReference_cases reference with ⟨source, target, known, knownToo⟩ | unknown
  · obtain ⟨_, vertices, _, dangling⟩ := addReference_known known knownToo
    have counted := foldl_links_modify graph.vertices.toList ⟨target, reference.kind⟩
      (find?_lt known) 0
    rw [dangling, referenceCount, vertices, Array.toList_modify, counted, Nat.add_right_comm]
    rfl
  · rw [addReference_unknown unknown]
    rfl

/-! ## Stored references -/

def Stores (graph : SymbolGraph) (reference : Reference) : Prop :=
  ∃ source target, graph.find? reference.source = some source ∧
    graph.find? reference.target = some target ∧
      ⟨target, reference.kind⟩ ∈ graph.linksAt source

theorem target_lt {position : Nat} {link : Link} (linked : link ∈ graph.linksAt position) :
    link.target < graph.vertices.size := by
  obtain ⟨vertex, stored, member⟩ := mem_linksAt.mp linked
  exact graph.indexed.linked vertex (Array.mem_of_getElem? stored) link member

theorem source_lt {position : Nat} {link : Link} (linked : link ∈ graph.linksAt position) :
    position < graph.vertices.size := by
  obtain ⟨_, stored, _⟩ := mem_linksAt.mp linked
  exact (Array.getElem?_eq_some_iff.mp stored).1

/-- A stored reference has both its ends among the symbols, so a new symbol stores none. -/
theorem stores_addSymbol (graph : SymbolGraph) (symbol : Symbol) (other : Reference) :
    (graph.addSymbol symbol).2.Stores other ↔ graph.Stores other := by
  cases placed : graph.find? symbol.id with
  | some position => rw [addSymbol_known placed]
  | none =>
      have earlier {id : String} {position : Nat} (inside : position < graph.vertices.size) :
          (graph.addSymbol symbol).2.find? id = some position ↔
            graph.find? id = some position := by
        rw [find?_addSymbol_new placed]
        split
        · rename_i same
          rw [← same, placed]
          constructor
          · intro last
            exact absurd (Option.some.inj last) (Nat.ne_of_gt inside)
          · nofun
        · rfl
      constructor
      · rintro ⟨source, target, known, knownToo, linked⟩
        rw [linksAt_addSymbol] at linked
        exact ⟨source, target, (earlier (source_lt linked)).mp known,
          (earlier (target_lt linked)).mp knownToo, linked⟩
      · rintro ⟨source, target, known, knownToo, linked⟩
        refine ⟨source, target, (earlier (source_lt linked)).mpr known,
          (earlier (target_lt linked)).mpr knownToo, ?_⟩
        rw [linksAt_addSymbol]
        exact linked

theorem stores_addReference (graph : SymbolGraph) (reference other : Reference) :
    (graph.addReference reference).2.Stores other ↔
      graph.Stores other ∨ other = reference ∧
        (graph.symbol? reference.source).isSome ∧ (graph.symbol? reference.target).isSome := by
  rw [isSome_symbol?, isSome_symbol?]
  rcases graph.addReference_cases reference with ⟨source, target, known, knownToo⟩ | unknown
  · simp only [Stores, find?_addReference, mem_linksAt_addReference_known known knownToo]
    constructor
    · rintro ⟨origin, goal, placed, placedToo, ⟨rfl, new⟩ | old⟩
      · obtain ⟨rfl, kind⟩ := Link.mk.inj new
        have sources := find?_injective placed known
        have targets := find?_injective placedToo knownToo
        have same : other = reference :=
          calc other = ⟨other.source, other.target, other.kind⟩ := rfl
            _ = reference := by rw [sources, targets, kind]
        exact Or.inr ⟨same, by simp [known], by simp [knownToo]⟩
      · exact Or.inl ⟨origin, goal, placed, placedToo, old⟩
    · rintro (⟨origin, goal, placed, placedToo, linked⟩ | ⟨rfl, _, _⟩)
      · exact ⟨origin, goal, placed, placedToo, Or.inr linked⟩
      · exact ⟨source, target, known, knownToo, Or.inl ⟨rfl, rfl⟩⟩
  · rw [addReference_unknown unknown]
    constructor
    · exact Or.inl
    · rintro (stored | ⟨_, source, target⟩)
      · exact stored
      · rcases unknown with none | none
        · rw [none] at source
          cases source
        · rw [none] at target
          cases target

end TestImpact.SymbolGraph
