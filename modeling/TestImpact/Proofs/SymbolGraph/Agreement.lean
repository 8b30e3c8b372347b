import TestImpact.Proofs.SymbolGraph.Scan

/-!
# Snapshots that agree

What a walk sees of a snapshot is the file of each id and which known ids refer to which.
Snapshots that agree in this may list their symbols and references in any order and any
number of times; their graphs have the same files and the same steps. A snapshot that goes
on from another keeps every step of it.
-/

namespace TestImpact

open Listing

namespace Snapshot

def file? (snapshot : Snapshot) (id : String) : Option String :=
  (snapshot.symbol? id).map (·.file)

def Relates (snapshot : Snapshot) (source target : String) : Prop :=
  (∃ reference ∈ snapshot.references, reference.source = source ∧ reference.target = target) ∧
    (snapshot.file? source).isSome ∧ (snapshot.file? target).isSome

/-- Snapshots that give every id the same file and relate the same ids. -/
structure Agrees (first second : Snapshot) : Prop where
  file?_eq : ∀ id, first.file? id = second.file? id
  relates_iff : ∀ source target, first.Relates source target ↔ second.Relates source target

/-- A snapshot that lists further symbols behind those of another, and its references
among others. -/
structure Extends (more fewer : Snapshot) : Prop where
  symbols : fewer.symbols <+: more.symbols
  references : fewer.references ⊆ more.references

theorem joins_iff_relates {snapshot : Snapshot} {source target : String} :
    snapshot.Joins source target ↔ ∃ first second, snapshot.Relates first second ∧
      snapshot.file? first = some source ∧ snapshot.file? second = some target := by
  constructor
  · rintro ⟨reference, member, starts, ends⟩
    refine ⟨reference.source, reference.target, ⟨⟨reference, member, rfl, rfl⟩, ?_, ?_⟩, starts,
      ends⟩
    · exact Option.isSome_iff_exists.mpr ⟨source, starts⟩
    · exact Option.isSome_iff_exists.mpr ⟨target, ends⟩
  · rintro ⟨_, _, ⟨⟨reference, member, rfl, rfl⟩, _⟩, starts, ends⟩
    exact ⟨reference, member, starts, ends⟩

theorem Agrees.joins_iff {first second : Snapshot} (agree : first.Agrees second)
    {source target : String} : first.Joins source target ↔ second.Joins source target := by
  rw [joins_iff_relates, joins_iff_relates]
  simp only [agree.file?_eq, agree.relates_iff]

/-- Symbols listed later do not take the place of the first one with their id. -/
theorem Extends.symbol?_eq_some {more fewer : Snapshot} (wider : more.Extends fewer)
    {id : String} {symbol : Symbol} (first : fewer.symbol? id = some symbol) :
    more.symbol? id = some symbol := by
  obtain ⟨later, listed⟩ := wider.symbols
  rw [symbol?, ← listed, List.find?_append, Option.or_eq_some_iff]
  exact Or.inl first

theorem Extends.joins {more fewer : Snapshot} (wider : more.Extends fewer)
    {source target : String} (joins : fewer.Joins source target) : more.Joins source target := by
  obtain ⟨reference, member, starts, ends⟩ := joins
  obtain ⟨origin, first, declares⟩ := Option.map_eq_some_iff.mp starts
  obtain ⟨goal, firstToo, declared⟩ := Option.map_eq_some_iff.mp ends
  refine ⟨reference, wider.references member, ?_, ?_⟩
  · rw [wider.symbol?_eq_some first, Option.map_some, declares]
  · rw [wider.symbol?_eq_some firstToo, Option.map_some, declared]

end Snapshot

namespace SymbolGraph

theorem declares_iff_symbol? {graph : SymbolGraph} {file : String} :
    graph.Declares file ↔ ∃ id, (graph.symbol? id).map (·.file) = some file := by
  constructor
  · rintro ⟨position, found, stored, declares⟩
    refine ⟨found.id, ?_⟩
    rw [symbol?_eq_some_iff.mpr ⟨position, stored, rfl⟩, Option.map_some, declares]
  · rintro ⟨id, declares⟩
    obtain ⟨found, first, declared⟩ := Option.map_eq_some_iff.mp declares
    obtain ⟨position, stored, _⟩ := symbol?_eq_some_iff.mp first
    exact ⟨position, found, stored, declared⟩

theorem isEmpty_eq_false_iff {graph : SymbolGraph} :
    graph.isEmpty = false ↔ ∃ file, graph.Declares file := by
  rw [isEmpty, symbolCount, decide_eq_false_iff_not]
  constructor
  · intro stocked
    have stored := isSome_symbolAt? (Nat.pos_of_ne_zero stocked)
    obtain ⟨found, first⟩ := Option.isSome_iff_exists.mp stored
    exact ⟨found.file, 0, found, first, rfl⟩
  · rintro ⟨file, position, found, stored, _⟩ bare
    obtain ⟨vertex, placed, _⟩ := Option.map_eq_some_iff.mp stored
    obtain ⟨inside, _⟩ := Array.getElem?_eq_some_iff.mp placed
    omega

section Congruence

variable {first second : SymbolGraph}
  (declares : ∀ file, first.Declares file ↔ second.Declares file)

include declares

theorem isEmpty_congr : first.isEmpty = second.isEmpty := by
  have stocked : first.isEmpty = false ↔ second.isEmpty = false := by
    rw [isEmpty_eq_false_iff, isEmpty_eq_false_iff]
    exact exists_congr declares
  cases bare : first.isEmpty with
  | false => exact (stocked.mp bare).symm
  | true =>
      cases bareToo : second.isEmpty with
      | false => exact absurd (stocked.mpr bareToo) (by simp [bare])
      | true => rfl

/-- Files and references in ascending order leave no room for anything else to show. -/
theorem steps_congr
    (hops : ∀ source target, first.FileStep source target ↔ second.FileStep source target) :
    first.steps = second.steps := by
  have files : first.files = second.files := by
    refine List.Pairwise.eq_of_mem_iff first.pairwise_files second.pairwise_files fun file => ?_
    rw [first.findsFiles.listed, second.findsFiles.listed]
    exact declares file
  have next : first.filesReferencedBy = second.filesReferencedBy := by
    funext file
    refine List.Pairwise.eq_of_mem_iff (pairwise_ascending _) (pairwise_ascending _) fun other => ?_
    exact mem_filesReferencedBy.trans ((hops file other).trans mem_filesReferencedBy.symm)
  rw [steps, steps, Reach.Steps.mk.injEq]
  exact ⟨files, next⟩

end Congruence

theorem declares_ofSnapshot {snapshot : Snapshot} {file : String} :
    (ofSnapshot snapshot).Declares file ↔ ∃ id, snapshot.file? id = some file := by
  rw [declares_iff_symbol?]
  refine exists_congr fun id => ?_
  rw [(grown_ofSnapshot snapshot).first]
  rfl

section Agreement

variable {first second : Snapshot} (agree : first.Agrees second)

include agree

theorem declares_ofSnapshot_congr (file : String) :
    (ofSnapshot first).Declares file ↔ (ofSnapshot second).Declares file := by
  rw [declares_ofSnapshot, declares_ofSnapshot]
  simp only [agree.file?_eq]

theorem isEmpty_ofSnapshot_congr : (ofSnapshot first).isEmpty = (ofSnapshot second).isEmpty :=
  isEmpty_congr (declares_ofSnapshot_congr agree)

theorem steps_ofSnapshot_congr : (ofSnapshot first).steps = (ofSnapshot second).steps := by
  refine steps_congr (declares_ofSnapshot_congr agree) fun source target => ?_
  rw [fileStep_ofSnapshot, fileStep_ofSnapshot, agree.joins_iff]

end Agreement

theorem fileStep_of_extends {more fewer : Snapshot} (wider : more.Extends fewer)
    {source target : String} (hop : (ofSnapshot fewer).FileStep source target) :
    (ofSnapshot more).FileStep source target := by
  rw [fileStep_ofSnapshot] at hop ⊢
  exact ⟨hop.1, wider.joins hop.2⟩

end SymbolGraph

end TestImpact
