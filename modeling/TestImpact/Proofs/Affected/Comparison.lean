import TestImpact.Proofs.Affected.Extent
import TestImpact.Proofs.Engine.Footprint
import TestImpact.Proofs.SymbolGraph.Agreement

/-!
# Impacts of two snapshots

Two snapshots that agree on the files of the ids and on the references between known ids
cannot be told apart: direct references, walks and impacts are the same to the last file
and warning, whenever the work is cancelled and whatever the analyzers answer. A snapshot
that goes on from another, a change of more files and a greater depth affect no fewer
files.
-/

namespace TestImpact

open Plan (Cancellation KeepsTo Moment)

/-- The same collaborators, but for the graph that the provider delivers in the end. -/
def Answers.delivering {m : Type → Type} [Monad m] (answers : Answers m) (graph : SymbolGraph) :
    Answers m
  | .graph project => do
      let _ ← answers (.graph project)
      return .ok graph
  | call => answers call

namespace Reach.Resolver

variable {first second : Snapshot} (agree : first.Agrees second)

include agree

theorem direct_congr :
    direct (SymbolGraph.ofSnapshot first) = direct (SymbolGraph.ofSnapshot second) :=
  congrArg Steps.next (SymbolGraph.steps_ofSnapshot_congr agree)

theorem traverse_congr (resolver : Resolver) :
    resolver.traverse (.ofSnapshot first) = resolver.traverse (.ofSnapshot second) := by
  funext start
  rw [traverse, traverse, SymbolGraph.isEmpty_ofSnapshot_congr agree,
    SymbolGraph.steps_ofSnapshot_congr agree]

theorem traverseWatched_congr (resolver : Resolver) :
    resolver.traverseWatched (.ofSnapshot first) =
      resolver.traverseWatched (.ofSnapshot second) := by
  funext start
  rw [traverseWatched, traverseWatched, SymbolGraph.isEmpty_ofSnapshot_congr agree,
    SymbolGraph.steps_ofSnapshot_congr agree]

end Reach.Resolver

namespace Engine

variable (engine : Engine)

theorem follow_congr {first second : Snapshot} (agree : first.Agrees second) :
    engine.follow (.ofSnapshot first) = engine.follow (.ofSnapshot second) := by
  funext file
  rw [follow, follow, Reach.Resolver.direct_congr agree,
    Reach.Resolver.traverseWatched_congr agree]

/-- A provider that delivers another graph changes nothing else. -/
theorem run_requestGraph_delivering {m : Type → Type} [Monad m] [LawfulMonad m]
    (answers : Answers m) (graph : SymbolGraph) (cancelled : Cancellation) (past : List Moment)
    (project : String) :
    (engine.requestGraph project).run (answers.delivering graph) cancelled past =
      (engine.requestGraph project).run answers cancelled past >>= fun ended =>
        pure (ended.1.map fun _ => .ok graph, ended.2) := by
  rw [requestGraph, Plan.run_ask_bind, Plan.run_ask_bind]
  split
  · rw [pure_bind]
    rfl
  · rw [Plan.run_request_bind, Plan.run_request_bind, Answers.delivering, bind_assoc, bind_assoc]
    refine congrArg (_ >>= ·) (funext fun answer => ?_)
    rw [pure_bind]
    cases engine.providerWaits with
    | false =>
        simp only [Bool.false_eq_true, if_false, Plan.run_pure, pure_bind]
        rfl
    | true =>
        simp only [if_true, Plan.run_ask_bind]
        split <;> simp only [Plan.run_pure, pure_bind] <;> rfl

/-- What goes on alike from two graphs, and asks for no other, ends alike: up to the answer of
the provider both runs are one. -/
theorem run_requestGraph_congr {α : Type} {m : Type → Type} [Monad m] [LawfulMonad m]
    (answers : Answers m) (cancelled : Cancellation) (past : List Moment) (project : String)
    {first second : SymbolGraph} {next : Except GraphError SymbolGraph → Plan α}
    (same : next (.ok first) = next (.ok second))
    (keeps : KeepsTo (IsLookup project) (next (.ok second))) :
    (engine.requestGraph project >>= next).run (answers.delivering first) cancelled past =
      (engine.requestGraph project >>= next).run (answers.delivering second) cancelled past := by
  have agree (call : Call) (looksUp : IsLookup project call) :
      answers.delivering first call = answers.delivering second call := by
    cases looksUp
    rfl
  rw [Plan.run_bind, Plan.run_bind, run_requestGraph_delivering, run_requestGraph_delivering,
    bind_assoc, bind_assoc]
  refine congrArg (_ >>= ·) (funext fun ended => ?_)
  rw [pure_bind, pure_bind]
  cases ended.1 with
  | error error => rfl
  | ok answer =>
      change (next (.ok first)).run _ _ _ = (next (.ok second)).run _ _ _
      rw [same]
      exact keeps.run_congr agree cancelled _

theorem run_buildImpact_congr {m : Type → Type} [Monad m] [LawfulMonad m] (answers : Answers m)
    (cancelled : Cancellation) (past : List Moment) (changed : List String) (project : String)
    {first second : Snapshot} (agree : first.Agrees second) :
    (engine.buildImpact changed project).run (answers.delivering (.ofSnapshot first)) cancelled
        past =
      (engine.buildImpact changed project).run (answers.delivering (.ofSnapshot second)) cancelled
        past := by
  unfold buildImpact
  refine engine.run_requestGraph_congr answers cancelled past project ?_ ?_
  · dsimp only
    rw [engine.follow_congr agree]
  · refine (KeepsTo.inTurn fun file _ => engine.keeps_follow _ file).bind fun reached => ?_
    exact (KeepsTo.inTurn fun file _ => engine.keeps_lookUp project file).bind fun _ => .done _

/-- Snapshots that agree lead to the same direct references and the same walks, and to the
same impact with the same warnings, or the same error, at the same moments. -/
theorem indistinguishable_of_agrees {first second : Snapshot} (agree : first.Agrees second) :
    (∀ file, Reach.Resolver.direct (.ofSnapshot first) file =
      Reach.Resolver.direct (.ofSnapshot second) file) ∧
    (∀ (resolver : Reach.Resolver) (start : List String),
      resolver.traverse (.ofSnapshot first) start =
          resolver.traverse (.ofSnapshot second) start ∧
        resolver.traverseWatched (.ofSnapshot first) start =
          resolver.traverseWatched (.ofSnapshot second) start) ∧
    ∀ {m : Type → Type} [Monad m] [LawfulMonad m] (answers : Answers m) (engine : Engine)
      (cancelled : Cancellation) (past : List Moment) (changed : List String) (project : String),
      (engine.buildImpact changed project).run (answers.delivering (.ofSnapshot first)) cancelled
          past =
        (engine.buildImpact changed project).run (answers.delivering (.ofSnapshot second))
          cancelled past := by
  refine ⟨fun file => ?_, fun resolver start => ⟨?_, ?_⟩, ?_⟩
  · rw [Reach.Resolver.direct_congr agree]
  · rw [resolver.traverse_congr agree]
  · rw [resolver.traverseWatched_congr agree]
  · intro m _ _ answers engine cancelled past changed project
    exact engine.run_buildImpact_congr answers cancelled past changed project agree

/-- Symbols in another order and told of differently, one of them twice; references
repeated, of other kinds, and one that leads nowhere. -/
theorem indistinguishable_of_agrees_reindexed :
    let first : Snapshot :=
      ⟨[⟨"a", "", .function, "a.go", 1⟩, ⟨"b", "", .function, "b.go", 1⟩], [⟨"a", "b", .calls⟩]⟩
    let second : Snapshot :=
      ⟨[⟨"b", "B", .struct, "b.go", 7⟩, ⟨"a", "A", .method, "a.go", 3⟩,
        ⟨"a", "", .function, "c.go", 1⟩],
       [⟨"a", "gone", .calls⟩, ⟨"a", "b", .uses⟩, ⟨"a", "b", .imports⟩]⟩
    let engine : Engine := ⟨.ofLanguages [] ["go"], .usual, true, Glob.nestingLimit⟩
    let script : Script := ⟨.error .cancelled, [], fun _ => .ok ["a_test.go"], fun _ => .ok false⟩
    let built (snapshot : Snapshot) :=
      (engine.buildImpact ["a.go"] "/shop").run (script.answers.delivering (.ofSnapshot snapshot))
        .never []
    first.Agrees second ∧ Reach.Resolver.direct (.ofSnapshot first) "a.go" = ["b.go"] ∧
      Reach.Resolver.direct (.ofSnapshot first) "a.go" =
        Reach.Resolver.direct (.ofSnapshot second) "a.go" ∧
      built first = built second := by
  intro first second engine script built
  have agree : first.Agrees second := by
    refine ⟨fun id => ?_, fun source target => ?_⟩
    · by_cases a : "a" = id
      · subst a
        rfl
      · by_cases b : "b" = id <;> simp [first, second, Snapshot.file?, Snapshot.symbol?, a, b]
    · constructor
      · rintro ⟨⟨reference, member, rfl, rfl⟩, _⟩
        obtain rfl := List.mem_singleton.mp member
        exact ⟨⟨⟨"a", "b", .uses⟩, by simp [second], rfl, rfl⟩, rfl, rfl⟩
      · rintro ⟨⟨reference, member, rfl, rfl⟩, _, known⟩
        have listed : reference = ⟨"a", "gone", .calls⟩ ∨ reference = ⟨"a", "b", .uses⟩ ∨
            reference = ⟨"a", "b", .imports⟩ := by simpa [second] using member
        rcases listed with rfl | rfl | rfl
        · cases known
        · exact ⟨⟨⟨"a", "b", .calls⟩, by simp [first], rfl, rfl⟩, rfl, rfl⟩
        · exact ⟨⟨⟨"a", "b", .calls⟩, by simp [first], rfl, rfl⟩, rfl, rfl⟩
  obtain ⟨direct, _, built⟩ := indistinguishable_of_agrees agree
  exact ⟨agree, by decide, direct "a.go", built script.answers engine .never [] ["a.go"] "/shop"⟩

/-- With a snapshot that goes on from another, more changed files and a greater depth, no
file is left out that was affected before, whatever else differs. -/
theorem affected_subset_of_extends {fewer more : Snapshot} (goesOn : more.Extends fewer)
    {changed others : List String} (changes : changed ⊆ others) {engine deeper : Engine}
    (deepens : engine.config.depth ≤ deeper.config.depth)
    {collaborators newer : Collaborators} {project place : String}
    (delivered : collaborators [] (.graph project) = .ok (.ofSnapshot fewer))
    (deliveredToo : newer [] (.graph place) = .ok (.ofSnapshot more)) :
    ∃ impact warnings heard wider told heardToo,
      (engine.buildImpact changed project).converse collaborators [] =
          (.ok ⟨impact, warnings⟩, heard) ∧
        (deeper.buildImpact others place).converse newer [] = (.ok ⟨wider, told⟩, heardToo) ∧
        impact.affected ⊆ wider.affected := by
  obtain ⟨impact, warnings, heard, built, _, affected⟩ :=
    engine.converse_buildImpact_graph collaborators [] changed delivered
  obtain ⟨wider, told, heardToo, builtToo, _, affectedToo⟩ :=
    deeper.converse_buildImpact_graph newer [] others deliveredToo
  refine ⟨impact, warnings, heard, wider, told, heardToo, built, builtToo, fun file member => ?_⟩
  have reaches := (affected file).mp member
  have bound : engine.resolver.depth ≤ deeper.resolver.depth := max_le_max deepens (le_refl 1)
  refine (affectedToo file).mpr (reaches.mono ?_ bound changes)
  exact fun source target => SymbolGraph.fileStep_of_extends goesOn

/-- A reference that led nowhere gets its target, a known id comes again, another file is
changed, and the depth grows. -/
theorem affected_subset_of_extends_revived :
    let fewer : Snapshot :=
      ⟨[⟨"a", "", .function, "a.go", 1⟩, ⟨"b", "", .function, "b.go", 1⟩],
       [⟨"a", "b", .calls⟩, ⟨"b", "c", .calls⟩]⟩
    let more : Snapshot :=
      ⟨fewer.symbols ++ [⟨"c", "", .function, "c.go", 1⟩, ⟨"a", "", .function, "d.go", 1⟩],
       ⟨"c", "a", .uses⟩ :: fewer.references⟩
    let engine : Engine := ⟨.ofLanguages [] [], { EngineConfig.usual with depth := 1 }, false, Glob.nestingLimit⟩
    let deeper : Engine := ⟨.ofLanguages [] [], .usual, false, Glob.nestingLimit⟩
    let answering (snapshot : Snapshot) : Collaborators :=
      .fixed (Script.answers
        ⟨.ok (.ofSnapshot snapshot), [], fun _ => .ok [], fun _ => .ok false⟩)
    more.Extends fewer ∧ ["a.go"] ⊆ ["c.go", "a.go"] ∧
      engine.config.depth ≤ deeper.config.depth ∧
      answering fewer [] (.graph "/shop") = .ok (.ofSnapshot fewer) ∧
      answering more [] (.graph "/store") = .ok (.ofSnapshot more) ∧
      ∃ impact warnings heard wider told heardToo,
        (engine.buildImpact ["a.go"] "/shop").converse (answering fewer) [] =
            (.ok ⟨impact, warnings⟩, heard) ∧
          (deeper.buildImpact ["c.go", "a.go"] "/store").converse (answering more) [] =
            (.ok ⟨wider, told⟩, heardToo) ∧
          impact.affected ⊆ wider.affected := by
  intro fewer more engine deeper answering
  have goesOn : more.Extends fewer := ⟨List.prefix_append _ _, List.subset_cons_self _ _⟩
  have changes : ["a.go"] ⊆ ["c.go", "a.go"] := List.subset_cons_self _ _
  have deepens : engine.config.depth ≤ deeper.config.depth := by decide
  exact ⟨goesOn, changes, deepens, rfl, rfl,
    affected_subset_of_extends goesOn changes deepens rfl rfl⟩

end Engine

end TestImpact
