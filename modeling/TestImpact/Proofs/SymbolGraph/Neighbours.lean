import Mathlib.Data.List.Sort
import TestImpact.Proofs.SymbolGraph.Scan

/-!
# What symbols reference and what references them

The lists of symbols that a graph answers with are told by the references that it
stores: a listed symbol is the stored one with its id, and a reference joins it to the
symbol asked about. Lists come about in two ways: from a set of positions that is put in
order, and from links that are put in order and then lose their repetitions. Each id has one
position, so both give the dictionary by id of the symbols met. Therefore each list ascends
strictly and is given by its members, and the lists for all kinds of references merge into
the list for any kind.
-/

namespace TestImpact

open Listing

theorem ReferenceKind.mem_all (kind : ReferenceKind) : kind ∈ all := by
  cases kind <;> decide

def Symbol.Before (first second : Symbol) : Prop := first.id < second.id

instance : Std.Irrefl Symbol.Before := ⟨fun symbol => String.lt_irrefl symbol.id⟩

instance : Std.Antisymm Symbol.Before :=
  ⟨fun _ _ before after => absurd (String.lt_trans before after) (String.lt_irrefl _)⟩

/-! ## Merging by id -/

/-- Merges two lists that ascend by id. Where both have a symbol with one id, it is
listed once. -/
def mergeById : List Symbol → List Symbol → List Symbol
  | [], second => second
  | first, [] => first
  | symbol :: first, other :: second =>
      if symbol.id < other.id then symbol :: mergeById first (other :: second)
      else if other.id < symbol.id then other :: mergeById (symbol :: first) second
      else symbol :: mergeById first second
termination_by first second => first.length + second.length

def SameById (first second : List Symbol) : Prop :=
  ∀ symbol ∈ first, ∀ other ∈ second, symbol.id = other.id → symbol = other

theorem SameById.tails {first second : List Symbol} {symbol other : Symbol}
    (same : SameById (symbol :: first) (other :: second)) :
    SameById first (other :: second) ∧ SameById (symbol :: first) second ∧
      SameById first second :=
  ⟨fun one member => same one (List.mem_cons_of_mem _ member),
    fun one member two among => same one member two (List.mem_cons_of_mem _ among),
    fun one member two among =>
      same one (List.mem_cons_of_mem _ member) two (List.mem_cons_of_mem _ among)⟩

theorem mem_mergeById {first second : List Symbol} (same : SameById first second)
    (symbol : Symbol) : symbol ∈ mergeById first second ↔ symbol ∈ first ∨ symbol ∈ second := by
  fun_induction mergeById first second with
  | case1 second => simp
  | case2 first _ => simp
  | case3 head first other second below ih =>
      rw [List.mem_cons, ih same.tails.1, List.mem_cons (l := first), or_assoc]
  | case4 head first other second _ below ih =>
      rw [List.mem_cons, ih same.tails.2.1, List.mem_cons (l := second), or_left_comm]
  | case5 head first other second notBelow notAbove ih =>
      have once : head = other := same head List.mem_cons_self other List.mem_cons_self
        (eq_of_not_lt notBelow notAbove)
      rw [List.mem_cons, ih same.tails.2.2, List.mem_cons, List.mem_cons, ← once]
      tauto

theorem pairwise_mergeById {first second : List Symbol} (same : SameById first second)
    (ascends : first.Pairwise Symbol.Before) (ascendsToo : second.Pairwise Symbol.Before) :
    (mergeById first second).Pairwise Symbol.Before := by
  fun_induction mergeById first second with
  | case1 second => exact ascendsToo
  | case2 first _ => exact ascends
  | case3 head first other second below ih =>
      obtain ⟨ahead, later⟩ := List.pairwise_cons.mp ascends
      refine List.pairwise_cons.mpr ⟨fun symbol member => ?_, ih same.tails.1 later ascendsToo⟩
      rcases (mem_mergeById same.tails.1 symbol).mp member with left | right
      · exact ahead symbol left
      · rcases List.mem_cons.mp right with rfl | behind
        · exact below
        · exact String.lt_trans below ((List.pairwise_cons.mp ascendsToo).1 symbol behind)
  | case4 head first other second _ below ih =>
      obtain ⟨ahead, later⟩ := List.pairwise_cons.mp ascendsToo
      refine List.pairwise_cons.mpr ⟨fun symbol member => ?_, ih same.tails.2.1 ascends later⟩
      rcases (mem_mergeById same.tails.2.1 symbol).mp member with left | right
      · rcases List.mem_cons.mp left with rfl | behind
        · exact below
        · exact String.lt_trans below ((List.pairwise_cons.mp ascends).1 symbol behind)
      · exact ahead symbol right
  | case5 head first other second notBelow notAbove ih =>
      obtain ⟨ahead, later⟩ := List.pairwise_cons.mp ascends
      obtain ⟨aheadToo, laterToo⟩ := List.pairwise_cons.mp ascendsToo
      have once : head.id = other.id := eq_of_not_lt notBelow notAbove
      refine List.pairwise_cons.mpr ⟨fun symbol member => ?_, ih same.tails.2.2 later laterToo⟩
      rcases (mem_mergeById same.tails.2.2 symbol).mp member with left | right
      · exact ahead symbol left
      · rw [Symbol.Before, once]
        exact aheadToo symbol right

namespace SymbolGraph

variable {graph : SymbolGraph} {symbol other : Symbol} {id : String} {kind : ReferenceKind}

/-! ## Symbols under their ids -/

def Holds (graph : SymbolGraph) (symbol : Symbol) : Prop := graph.symbol? symbol.id = some symbol

theorem Holds.eq_of_id_eq (held : graph.Holds symbol) (heldToo : graph.Holds other)
    (same : symbol.id = other.id) : symbol = other := by
  rw [Holds, same] at held
  exact Option.some.inj (held.symm.trans heldToo)

theorem holds_iff : graph.Holds symbol ↔ ∃ position, graph.symbolAt? position = some symbol := by
  rw [Holds, symbol?_eq_some_iff]
  exact exists_congr fun position => and_iff_left rfl

theorem find?_of_symbolAt? {position : Nat} (placed : graph.symbolAt? position = some symbol) :
    graph.find? symbol.id = some position :=
  find?_eq_some_iff.mpr ⟨symbol, placed, rfl⟩

theorem symbolAt?_of_find? {position : Nat} (held : graph.Holds symbol)
    (known : graph.find? symbol.id = some position) :
    graph.symbolAt? position = some symbol := by
  obtain ⟨other, placed⟩ := holds_iff.mp held
  obtain rfl := Option.some.inj (known.symm.trans (find?_of_symbolAt? placed))
  exact placed

/-! ## The dictionary by id -/

def symbolsAt (graph : SymbolGraph) (positions : List Nat) : List Symbol :=
  let symbols := positions.filterMap graph.symbolAt?
  (Dictionary.ofList (symbols.map fun symbol => (symbol.id, symbol))).entries.map Prod.snd

theorem mem_symbolsAt {positions : List Nat} : symbol ∈ graph.symbolsAt positions ↔
    ∃ position ∈ positions, graph.symbolAt? position = some symbol := by
  rw [symbolsAt, ← List.mem_filterMap]
  constructor
  · intro member
    obtain ⟨entry, listed, rfl⟩ := List.mem_map.mp member
    obtain ⟨found, among, rfl⟩ := List.mem_map.mp (Dictionary.mem_of_mem_ofList listed)
    exact among
  · intro among
    have follow : ∀ entry ∈ (positions.filterMap graph.symbolAt?).map
        (fun symbol => (symbol.id, symbol)), graph.symbol? entry.1 = some entry.2 := by
      intro entry listed
      obtain ⟨found, stored, rfl⟩ := List.mem_map.mp listed
      obtain ⟨position, _, placed⟩ := List.mem_filterMap.mp stored
      exact holds_iff.mpr ⟨position, placed⟩
    have listed := List.mem_map_of_mem (f := fun symbol : Symbol => (symbol.id, symbol)) among
    have found := Dictionary.get?_ofList graph.symbol? follow symbol.id
    rw [if_pos (List.mem_map_of_mem (f := Prod.fst) listed), follow _ listed] at found
    obtain ⟨before, after, split, _⟩ := List.lookup_eq_some_iff.mp found
    rw [split]
    simp

theorem pairwise_symbolsAt (graph : SymbolGraph) (positions : List Nat) :
    (graph.symbolsAt positions).Pairwise Symbol.Before := by
  let listed := Dictionary.ofList
    ((positions.filterMap graph.symbolAt?).map fun symbol => (symbol.id, symbol))
  have keyed : ∀ entry ∈ listed.entries, entry.1 = entry.2.id := by
    intro entry member
    obtain ⟨found, _, rfl⟩ := List.mem_map.mp (Dictionary.mem_of_mem_ofList member)
    rfl
  refine List.pairwise_map.mpr ((List.pairwise_map.mp listed.sorted).imp_of_mem ?_)
  intro first second member memberToo below
  rw [keyed first member, keyed second memberToo] at below
  exact below

/-! ## Lists in the order of ids -/

theorem pairwise_mergeSort (symbols : List Symbol) :
    (symbols.mergeSort notBehind).Pairwise fun first second => first.id ≤ second.id := by
  have transitive : ∀ first second third : Symbol, notBehind first second = true →
      notBehind second third = true → notBehind first third = true :=
    fun _ _ _ ahead behind => decide_eq_true
      (String.le_trans (of_decide_eq_true ahead) (of_decide_eq_true behind))
  have total : ∀ first second : Symbol, (notBehind first second || notBehind second first) = true :=
    fun first second => Bool.or_eq_true_iff.mpr
      ((String.le_total first.id second.id).imp decide_eq_true decide_eq_true)
  exact (List.pairwise_mergeSort transitive total symbols).imp of_decide_eq_true

theorem before_of_le_of_ne (ahead : symbol.id ≤ other.id) (differs : symbol.id ≠ other.id) :
    symbol.Before other := by
  rw [Symbol.Before, ← String.not_le]
  exact fun behind => differs (String.le_antisymm ahead behind)

/-- Different positions have symbols with different ids. -/
theorem pairwise_filterMap_symbolAt? {positions : List Nat} (distinct : positions.Nodup) :
    (positions.filterMap graph.symbolAt?).Pairwise fun first second => first.id ≠ second.id := by
  refine List.pairwise_filterMap.mpr (distinct.imp ?_)
  intro position another different first placed second placedToo same
  have found := find?_of_symbolAt? placed
  rw [same, find?_of_symbolAt? placedToo] at found
  exact different (Option.some.inj found).symm

theorem mem_neighboursAt {positions : List Nat} : symbol ∈ graph.neighboursAt positions ↔
    ∃ position ∈ positions, graph.symbolAt? position = some symbol := by
  simp [neighboursAt]

theorem pairwise_neighboursAt (graph : SymbolGraph) (positions : List Nat) :
    (graph.neighboursAt positions).Pairwise Symbol.Before := by
  have distinct : (Std.TreeSet.ofList positions).toList.Nodup :=
    Std.TreeSet.distinct_toList.imp fun different same => different (Nat.compare_eq_eq.mpr same)
  have apart : (graph.neighboursAt positions).Pairwise fun first second => first.id ≠ second.id :=
    ((List.mergeSort_perm _ notBehind).pairwise_iff fun differs => Ne.symm differs).mpr
      (pairwise_filterMap_symbolAt? distinct)
  exact ((pairwise_mergeSort _).and apart).imp fun both => before_of_le_of_ne both.1 both.2

/-- Positions are taken once each, so their symbols need not be told apart by id. -/
theorem neighboursAt_eq_symbolsAt (graph : SymbolGraph) (positions : List Nat) :
    graph.neighboursAt positions = graph.symbolsAt positions :=
  (pairwise_neighboursAt graph positions).eq_of_mem_iff (pairwise_symbolsAt graph positions)
    fun _ => mem_neighboursAt.trans mem_symbolsAt.symm

theorem dropRepeatsOf_subset (id : String) (symbols : List Symbol) :
    dropRepeatsOf id symbols ⊆ symbols := by
  induction symbols generalizing id with
  | nil => exact List.Subset.refl _
  | cons first rest ih =>
      rw [dropRepeatsOf]
      split
      · exact List.subset_cons_of_subset first (ih id)
      · exact List.cons_subset_cons first (ih first.id)

/-- In a list that is in order nothing with the same id comes back later. -/
theorem pairwise_dropRepeatsOf {id : String} {symbols : List Symbol}
    (ahead : ∀ symbol ∈ symbols, id ≤ symbol.id)
    (sorted : symbols.Pairwise fun first second => first.id ≤ second.id) :
    (∀ symbol ∈ dropRepeatsOf id symbols, id < symbol.id) ∧
      (dropRepeatsOf id symbols).Pairwise Symbol.Before := by
  induction symbols generalizing id with
  | nil => exact ⟨nofun, List.Pairwise.nil⟩
  | cons first rest ih =>
      obtain ⟨least, others⟩ := List.forall_mem_cons.mp ahead
      obtain ⟨behind, sortedRest⟩ := List.pairwise_cons.mp sorted
      rw [dropRepeatsOf]
      split
      · exact ih others sortedRest
      · rename_i differs
        obtain ⟨after, ascends⟩ := ih behind sortedRest
        have below : id < first.id := by
          rw [← String.not_le]
          exact fun above => differs (String.le_antisymm above least)
        refine ⟨List.forall_mem_cons.mpr ⟨below, fun symbol member => ?_⟩,
          List.pairwise_cons.mpr ⟨after, ascends⟩⟩
        exact String.lt_trans below (after symbol member)

/-- What is dropped has the id of what stands before it, so it is the same symbol. -/
theorem mem_dropRepeatsOf {id : String} {symbols : List Symbol}
    (held : ∀ symbol ∈ symbols, graph.Holds symbol) (member : symbol ∈ symbols) :
    symbol.id = id ∨ symbol ∈ dropRepeatsOf id symbols := by
  induction symbols generalizing id with
  | nil => cases member
  | cons first rest ih =>
      obtain ⟨heldFirst, heldRest⟩ := List.forall_mem_cons.mp held
      rw [dropRepeatsOf]
      split
      · rename_i same
        rcases List.mem_cons.mp member with rfl | later
        · exact .inl same
        · exact ih heldRest later
      · rcases List.mem_cons.mp member with rfl | later
        · exact .inr List.mem_cons_self
        · rcases ih heldRest later with same | kept
          · obtain rfl := (heldRest symbol later).eq_of_id_eq heldFirst same
            exact .inr List.mem_cons_self
          · exact .inr (List.mem_cons_of_mem first kept)

theorem mem_dropRepeats {symbols : List Symbol} (held : ∀ symbol ∈ symbols, graph.Holds symbol) :
    symbol ∈ dropRepeats symbols ↔ symbol ∈ symbols := by
  cases symbols with
  | nil => exact Iff.rfl
  | cons first rest =>
      obtain ⟨heldFirst, heldRest⟩ := List.forall_mem_cons.mp held
      rw [dropRepeats, List.mem_cons, List.mem_cons]
      constructor
      · exact .imp_right fun kept => dropRepeatsOf_subset first.id rest kept
      · rintro (rfl | later)
        · exact .inl rfl
        · exact (mem_dropRepeatsOf heldRest later).imp_left fun same =>
            (heldRest symbol later).eq_of_id_eq heldFirst same

theorem pairwise_dropRepeats {symbols : List Symbol}
    (sorted : symbols.Pairwise fun first second => first.id ≤ second.id) :
    (dropRepeats symbols).Pairwise Symbol.Before := by
  cases symbols with
  | nil => exact List.Pairwise.nil
  | cons first rest =>
      obtain ⟨behind, sortedRest⟩ := List.pairwise_cons.mp sorted
      exact List.pairwise_cons.mpr (pairwise_dropRepeatsOf behind sortedRest)

/-- Symbols that are met more than once stand together once they are in order. -/
theorem dropRepeats_eq_symbolsAt (graph : SymbolGraph) (positions : List Nat) :
    dropRepeats ((positions.filterMap graph.symbolAt?).mergeSort notBehind) =
      graph.symbolsAt positions := by
  refine (pairwise_dropRepeats (pairwise_mergeSort _)).eq_of_mem_iff
    (pairwise_symbolsAt graph positions) fun symbol => ?_
  have held : ∀ symbol ∈ (positions.filterMap graph.symbolAt?).mergeSort notBehind,
      graph.Holds symbol := by
    intro symbol member
    obtain ⟨position, _, placed⟩ := List.mem_filterMap.mp (List.mem_mergeSort.mp member)
    exact holds_iff.mpr ⟨position, placed⟩
  rw [mem_dropRepeats held, List.mem_mergeSort, List.mem_filterMap, mem_symbolsAt]

def symbolsFrom (graph : SymbolGraph) (id : String) (positions : Nat → List Nat) : List Symbol :=
  ((graph.find? id).map fun position => graph.symbolsAt (positions position)).getD []

theorem dependenciesOf_eq_symbolsFrom (graph : SymbolGraph) (id : String) :
    graph.dependenciesOf id =
      graph.symbolsFrom id fun position => (graph.linksAt position).map (·.target) := by
  rw [dependenciesOf, symbolsFrom]
  cases graph.find? id with
  | none => rfl
  | some position => exact neighboursAt_eq_symbolsAt graph _

theorem dependentsOf_eq_symbolsFrom (graph : SymbolGraph) (id : String) :
    graph.dependentsOf id = graph.symbolsFrom id graph.sourcesAt := by
  rw [dependentsOf, symbolsFrom]
  cases graph.find? id with
  | none => rfl
  | some position => exact neighboursAt_eq_symbolsAt graph _

theorem referencesOfKind_eq_symbolsFrom (graph : SymbolGraph) (id : String)
    (kind : ReferenceKind) : graph.referencesOfKind id kind =
      graph.symbolsFrom id fun position =>
        ((graph.linksAt position).filter (·.kind = kind)).map (·.target) := by
  rw [referencesOfKind, symbolsFrom]
  cases graph.find? id with
  | none => rfl
  | some position =>
      rw [Option.map_some, Option.getD_some, ← dropRepeats_eq_symbolsAt, List.filterMap_map]
      rfl

/-! ## The lists by the references that are stored -/

/-- A stored reference between the ids of two positions is a link between them. -/
theorem stores_iff_link {source target : Nat} {other : String}
    (known : graph.find? id = some source) (knownToo : graph.find? other = some target) :
    graph.Stores ⟨id, other, kind⟩ ↔ ⟨target, kind⟩ ∈ graph.linksAt source := by
  constructor
  · rintro ⟨first, second, placed, placedToo, linked⟩
    obtain rfl := Option.some.inj (known.symm.trans placed)
    obtain rfl := Option.some.inj (knownToo.symm.trans placedToo)
    exact linked
  · exact fun linked => ⟨source, target, known, knownToo, linked⟩

theorem mem_symbolsFrom {positions : Nat → List Nat} : symbol ∈ graph.symbolsFrom id positions ↔
    ∃ position, graph.find? id = some position ∧
      ∃ other ∈ positions position, graph.symbolAt? other = some symbol := by
  rw [symbolsFrom]
  cases graph.find? id with
  | none => simp
  | some position => simp [mem_symbolsAt]

theorem pairwise_symbolsFrom (graph : SymbolGraph) (id : String) (positions : Nat → List Nat) :
    (graph.symbolsFrom id positions).Pairwise Symbol.Before := by
  rw [symbolsFrom]
  cases graph.find? id with
  | none => exact List.Pairwise.nil
  | some position => exact graph.pairwise_symbolsAt (positions position)

theorem mem_referencesOfKind : symbol ∈ graph.referencesOfKind id kind ↔
    graph.Holds symbol ∧ graph.Stores ⟨id, symbol.id, kind⟩ := by
  rw [referencesOfKind_eq_symbolsFrom, mem_symbolsFrom]
  simp only [List.mem_map, List.mem_filter, decide_eq_true_eq]
  constructor
  · rintro ⟨source, known, _, ⟨link, ⟨linked, rfl⟩, rfl⟩, placed⟩
    exact ⟨holds_iff.mpr ⟨_, placed⟩,
      (stores_iff_link known (find?_of_symbolAt? placed)).mpr linked⟩
  · rintro ⟨held, source, target, known, knownToo, linked⟩
    exact ⟨source, known, target, ⟨_, ⟨linked, rfl⟩, rfl⟩, symbolAt?_of_find? held knownToo⟩

theorem mem_dependenciesOf : symbol ∈ graph.dependenciesOf id ↔
    graph.Holds symbol ∧ ∃ kind, graph.Stores ⟨id, symbol.id, kind⟩ := by
  rw [dependenciesOf_eq_symbolsFrom, mem_symbolsFrom]
  simp only [List.mem_map]
  constructor
  · rintro ⟨source, known, _, ⟨link, linked, rfl⟩, placed⟩
    exact ⟨holds_iff.mpr ⟨_, placed⟩, link.kind,
      (stores_iff_link known (find?_of_symbolAt? placed)).mpr linked⟩
  · rintro ⟨held, kind, source, target, known, knownToo, linked⟩
    exact ⟨source, known, target, ⟨_, linked, rfl⟩, symbolAt?_of_find? held knownToo⟩

theorem mem_sourcesAt {source target : Nat} :
    source ∈ graph.sourcesAt target ↔ ∃ kind, ⟨target, kind⟩ ∈ graph.linksAt source := by
  simp only [sourcesAt, List.mem_flatMap, List.mem_range, List.mem_map, List.mem_filter,
    decide_eq_true_eq]
  constructor
  · rintro ⟨_, _, link, ⟨linked, rfl⟩, rfl⟩
    exact ⟨link.kind, linked⟩
  · rintro ⟨kind, linked⟩
    exact ⟨source, source_lt linked, ⟨target, kind⟩, ⟨linked, rfl⟩, rfl⟩

theorem mem_dependentsOf : symbol ∈ graph.dependentsOf id ↔
    graph.Holds symbol ∧ ∃ kind, graph.Stores ⟨symbol.id, id, kind⟩ := by
  rw [dependentsOf_eq_symbolsFrom, mem_symbolsFrom]
  simp only [mem_sourcesAt]
  constructor
  · rintro ⟨_, known, source, ⟨kind, linked⟩, placed⟩
    exact ⟨holds_iff.mpr ⟨source, placed⟩, kind,
      (stores_iff_link (find?_of_symbolAt? placed) known).mpr linked⟩
  · rintro ⟨held, kind, source, target, known, knownToo, linked⟩
    exact ⟨target, knownToo, source, ⟨kind, linked⟩, symbolAt?_of_find? held known⟩

theorem pairwise_dependenciesOf (graph : SymbolGraph) (id : String) :
    (graph.dependenciesOf id).Pairwise Symbol.Before :=
  dependenciesOf_eq_symbolsFrom graph id ▸ pairwise_symbolsFrom graph id _

theorem pairwise_dependentsOf (graph : SymbolGraph) (id : String) :
    (graph.dependentsOf id).Pairwise Symbol.Before :=
  dependentsOf_eq_symbolsFrom graph id ▸ pairwise_symbolsFrom graph id _

theorem pairwise_referencesOfKind (graph : SymbolGraph) (id : String) (kind : ReferenceKind) :
    (graph.referencesOfKind id kind).Pairwise Symbol.Before :=
  referencesOfKind_eq_symbolsFrom graph id kind ▸ pairwise_symbolsFrom graph id _

/-! ## How the lists agree -/

/-- The symbols that a symbol references in one of some ways, merged by id. -/
def referencesOfKinds (graph : SymbolGraph) (id : String) (kinds : List ReferenceKind) :
    List Symbol :=
  (kinds.map (graph.referencesOfKind id)).foldr mergeById []

/-- Merged references have the members of all of them, and ascend like each of them. -/
theorem mem_referencesOfKinds (graph : SymbolGraph) (id : String) (kinds : List ReferenceKind) :
    (∀ symbol, symbol ∈ graph.referencesOfKinds id kinds ↔
      ∃ kind ∈ kinds, symbol ∈ graph.referencesOfKind id kind) ∧
      (graph.referencesOfKinds id kinds).Pairwise Symbol.Before := by
  induction kinds with
  | nil => exact ⟨fun _ => by simp [referencesOfKinds], List.Pairwise.nil⟩
  | cons kind rest ih =>
      obtain ⟨members, ascends⟩ := ih
      have same : SameById (graph.referencesOfKind id kind) (graph.referencesOfKinds id rest) := by
        intro symbol member other among
        obtain ⟨_, _, listed⟩ := (members other).mp among
        exact (mem_referencesOfKind.mp member).1.eq_of_id_eq (mem_referencesOfKind.mp listed).1
      refine ⟨fun symbol => ?_,
        pairwise_mergeById same (pairwise_referencesOfKind graph id kind) ascends⟩
      refine (mem_mergeById same symbol).trans ?_
      rw [members, List.exists_mem_cons_iff]

/-- How the questions about symbols and about files of a graph answer each other. -/
structure NeighboursAgree (graph : SymbolGraph) : Prop where
  /-- A symbol is listed for a kind exactly if a stored reference of the kind leads to it. -/
  referred : ∀ id kind symbol, symbol ∈ graph.referencesOfKind id kind ↔
    graph.Holds symbol ∧ graph.Stores ⟨id, symbol.id, kind⟩
  converse : ∀ source target, target ∈ (graph.dependenciesOf source).map (·.id) ↔
    source ∈ (graph.dependentsOf target).map (·.id)
  merged : ∀ id, graph.dependenciesOf id = graph.referencesOfKinds id ReferenceKind.all
  everyKind : ∀ kind, kind ∈ ReferenceKind.all
  ascending : ∀ id, (graph.dependenciesOf id).Pairwise Symbol.Before ∧
    (graph.dependentsOf id).Pairwise Symbol.Before ∧
      ∀ kind, (graph.referencesOfKind id kind).Pairwise Symbol.Before
  unknown : ∀ id, graph.find? id = none → graph.dependenciesOf id = [] ∧
    graph.dependentsOf id = [] ∧ ∀ kind, graph.referencesOfKind id kind = []
  files : ∀ file, (graph.filesReferencedBy file).Pairwise (· < ·) ∧
    ∀ other, other ∈ graph.filesReferencedBy file ↔ other ≠ file ∧
      ∃ source, graph.Holds source ∧ source.file = file ∧
        ∃ target ∈ graph.dependenciesOf source.id, target.file = other

/-- The ids of a list of held symbols, if all ids that are due are known. -/
theorem mem_map_id_iff {listed : List Symbol} (Due : String → Prop) {name : String}
    (members : ∀ symbol, symbol ∈ listed ↔ graph.Holds symbol ∧ Due symbol.id)
    (known : Due name → ∃ position, graph.find? name = some position) :
    name ∈ listed.map (·.id) ↔ Due name := by
  rw [List.mem_map]
  constructor
  · rintro ⟨symbol, member, rfl⟩
    exact ((members symbol).mp member).2
  · intro due
    obtain ⟨position, found⟩ := known due
    obtain ⟨symbol, placed, rfl⟩ := find?_eq_some_iff.mp found
    exact ⟨symbol, (members symbol).mpr ⟨holds_iff.mpr ⟨position, placed⟩, due⟩, rfl⟩

theorem mem_ids_dependenciesOf {source target : String} :
    target ∈ (graph.dependenciesOf source).map (·.id) ↔
      ∃ kind, graph.Stores ⟨source, target, kind⟩ :=
  mem_map_id_iff (fun target => ∃ kind, graph.Stores ⟨source, target, kind⟩)
    (fun _ => mem_dependenciesOf) fun ⟨_, _, position, _, found, _⟩ => ⟨position, found⟩

theorem mem_ids_dependentsOf {source target : String} :
    source ∈ (graph.dependentsOf target).map (·.id) ↔
      ∃ kind, graph.Stores ⟨source, target, kind⟩ :=
  mem_map_id_iff (fun source => ∃ kind, graph.Stores ⟨source, target, kind⟩)
    (fun _ => mem_dependentsOf) fun ⟨_, position, _, found, _⟩ => ⟨position, found⟩

theorem mem_filesReferencedBy_iff_dependenciesOf {file other : String} :
    other ∈ graph.filesReferencedBy file ↔ other ≠ file ∧
      ∃ source, graph.Holds source ∧ source.file = file ∧
        ∃ target ∈ graph.dependenciesOf source.id, target.file = other := by
  rw [mem_filesReferencedBy, fileStep_iff_stores, ne_comm]
  refine and_congr_right fun _ => ?_
  constructor
  · rintro ⟨⟨_, _, kind⟩, stored, starts, ends⟩
    obtain ⟨source, held, declares⟩ := Option.map_eq_some_iff.mp starts
    obtain ⟨target, heldToo, declared⟩ := Option.map_eq_some_iff.mp ends
    obtain ⟨_, _, rfl⟩ := symbol?_eq_some_iff.mp held
    obtain ⟨_, _, rfl⟩ := symbol?_eq_some_iff.mp heldToo
    exact ⟨source, held, declares, target,
      mem_dependenciesOf.mpr ⟨heldToo, kind, stored⟩, declared⟩
  · rintro ⟨source, held, declares, target, listed, declared⟩
    obtain ⟨heldToo, kind, stored⟩ := mem_dependenciesOf.mp listed
    exact ⟨_, stored, Option.map_eq_some_iff.mpr ⟨source, held, declares⟩,
      Option.map_eq_some_iff.mpr ⟨target, heldToo, declared⟩⟩

/-- The answers of a graph about symbols agree with each other and with those about files,
whatever was added to it. -/
theorem neighbours_agree (graph : SymbolGraph) : graph.NeighboursAgree where
  referred := fun _ _ _ => mem_referencesOfKind
  converse := fun _ _ => mem_ids_dependenciesOf.trans mem_ids_dependentsOf.symm
  merged := by
    intro id
    obtain ⟨members, ascends⟩ := graph.mem_referencesOfKinds id ReferenceKind.all
    refine (pairwise_dependenciesOf graph id).eq_of_mem_iff ascends fun symbol => ?_
    rw [members, mem_dependenciesOf]
    simp only [mem_referencesOfKind, ReferenceKind.mem_all, true_and, exists_and_left]
  everyKind := ReferenceKind.mem_all
  ascending := fun id => ⟨pairwise_dependenciesOf graph id, pairwise_dependentsOf graph id,
    pairwise_referencesOfKind graph id⟩
  unknown := by
    intro id unknown
    simp only [dependenciesOf, dependentsOf, referencesOfKind, unknown, implies_true, and_self]
  files := fun file => ⟨pairwise_ascending _, fun _ => mem_filesReferencedBy_iff_dependenciesOf⟩

end SymbolGraph

end TestImpact
