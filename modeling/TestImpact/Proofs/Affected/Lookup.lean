import Mathlib.Data.List.Basic
import TestImpact.Affected.Build
import TestImpact.Proofs.Engine.Conversation

/-!
# Looking up files

One question at most is asked about a file, and what was asked and answered tells what
became of it. Files that are looked up one after the other are looked up each by itself,
and the coverage holds the tests that were named for a file and nothing else.
-/

namespace TestImpact

open Listing (Dictionary)

namespace Lookup

def tests? : Lookup → Option (List String)
  | answered (.ok tests) => some tests
  | _ => none

theorem eq_of_tests? {lookup : Lookup} {tests : List String} (named : lookup.tests? = some tests) :
    lookup = answered (.ok tests) := by
  unfold tests? at named
  split at named
  · rw [Option.some.inj named]
  · cases named

/-- The exchange in which the tests of a file were asked for, if they were. -/
def exchange? (project file : String) : Lookup → Option Exchange
  | answered answer =>
      (SourceLanguage.ofPath? file).map fun language =>
        ⟨.findTests language.name file project, answer⟩
  | _ => none

def Fits (registry : Registry) (file : String) : Lookup → Prop
  | unsupported type =>
      SourceLanguage.ofPath? file = none ∧ type = SourceLanguage.unknownType file
  | unanalyzed language =>
      SourceLanguage.ofPath? file = some language ∧ registry.hasAnalyzer language.name = false
  | answered _ => ∃ language,
      SourceLanguage.ofPath? file = some language ∧ registry.hasAnalyzer language.name = true

/-- An answer was asked for. -/
theorem exists_exchange?_of_fits {registry : Registry} {file : String}
    {answer : Except Failure (List String)} (fits : (answered answer).Fits registry file)
    (project : String) : ∃ language : SourceLanguage,
      (answered answer).exchange? project file =
        some ⟨.findTests language.name file project, answer⟩ := by
  obtain ⟨language, ofPath, _⟩ := fits
  refine ⟨language, ?_⟩
  rw [exchange?, ofPath]
  rfl

/-- What was asked for a file tells its lookup. -/
theorem eq_of_fits {registry : Registry} {project file : String} {first second : Lookup}
    (fitsFirst : first.Fits registry file) (fitsSecond : second.Fits registry file)
    (same : (first.exchange? project file).toList = (second.exchange? project file).toList) :
    first = second := by
  cases first with
  | unsupported type =>
      cases second with
      | unsupported other => rw [fitsFirst.2, fitsSecond.2]
      | unanalyzed language => cases fitsFirst.1.symm.trans fitsSecond.1
      | answered answer =>
          obtain ⟨language, ofPath, _⟩ := fitsSecond
          cases fitsFirst.1.symm.trans ofPath
  | unanalyzed language =>
      cases second with
      | unsupported type => cases fitsFirst.1.symm.trans fitsSecond.1
      | unanalyzed other => rw [Option.some.inj (fitsFirst.1.symm.trans fitsSecond.1)]
      | answered answer =>
          obtain ⟨other, ofPath, analyzer⟩ := fitsSecond
          obtain rfl : language = other := Option.some.inj (fitsFirst.1.symm.trans ofPath)
          cases fitsFirst.2.symm.trans analyzer
  | answered answer =>
      obtain ⟨language, ofPath, analyzer⟩ := fitsFirst
      cases second with
      | unsupported type => cases fitsSecond.1.symm.trans ofPath
      | unanalyzed other =>
          obtain rfl : other = language := Option.some.inj (fitsSecond.1.symm.trans ofPath)
          cases fitsSecond.2.symm.trans analyzer
      | answered other =>
          rw [exchange?, exchange?, ofPath] at same
          cases same
          rfl

/-- Looking up a file only asks. -/
theorem asks_of_exchange? {project file : String} {lookup : Lookup} {exchange : Exchange}
    (asked : lookup.exchange? project file = some exchange) : exchange.call.asks = true := by
  unfold exchange? at asked
  split at asked
  · obtain ⟨language, _, rfl⟩ := Option.map_eq_some_iff.mp asked
    rfl
  · cases asked

end Lookup

namespace Engine

variable (engine : Engine) (collaborators : Collaborators) (said : List Exchange)

/-- One file is looked up by one question at most. -/
theorem converse_lookUp_fits (project file : String) :
    ∃ lookup : Lookup, lookup.Fits engine.registry file ∧
      (engine.lookUp project file).converse collaborators said =
        (.ok (file, lookup), said ++ (lookup.exchange? project file).toList) := by
  rw [lookUp]
  cases told : SourceLanguage.ofPath? file with
  | none => exact ⟨.unsupported (SourceLanguage.unknownType file), ⟨told, rfl⟩, by
      simp [Lookup.exchange?]⟩
  | some language =>
      dsimp only
      cases analyzer : engine.registry.hasAnalyzer language.name with
      | false => exact ⟨.unanalyzed language, ⟨told, analyzer⟩, by simp [Lookup.exchange?]⟩
      | true =>
          refine ⟨.answered (collaborators said (.findTests language.name file project)),
            ⟨language, told, analyzer⟩, ?_⟩
          simp [Plan.converse_bind, Lookup.exchange?, told]

/-- Looking up a file never stops the plan, and runs nothing. -/
theorem converse_lookUp (project file : String) :
    ∃ lookup heard, (engine.lookUp project file).converse collaborators said =
        (.ok lookup, said ++ heard) ∧
      ∀ exchange ∈ heard, exchange.call.asks = true := by
  obtain ⟨lookup, _, looked⟩ := engine.converse_lookUp_fits collaborators said project file
  refine ⟨(file, lookup), _, looked, fun exchange member => ?_⟩
  exact Lookup.asks_of_exchange? (Option.mem_toList.mp member)

/-- Files are looked up one after the other. -/
theorem converse_inTurn_lookUp (project : String) {files : List String} (distinct : files.Nodup) :
    ∃ found : String → Lookup, (∀ file ∈ files, (found file).Fits engine.registry file) ∧
      (Plan.inTurn (engine.lookUp project) files).converse collaborators said =
        (.ok (files.map fun file => (file, found file)),
          said ++ files.filterMap fun file => (found file).exchange? project file) := by
  induction files generalizing said with
  | nil => exact ⟨.unsupported, by simp, by simp [Plan.inTurn]⟩
  | cons file rest ih =>
      obtain ⟨new, distinctRest⟩ := List.nodup_cons.mp distinct
      obtain ⟨first, fits, looked⟩ := engine.converse_lookUp_fits collaborators said project file
      obtain ⟨later, fitsLater, lookedLater⟩ :=
        ih (said ++ (first.exchange? project file).toList) distinctRest
      let found (other : String) : Lookup := if other = file then first else later other
      have here : found file = first := if_pos rfl
      have there (other : String) (member : other ∈ rest) : found other = later other :=
        if_neg fun same : other = file => new (same ▸ member)
      refine ⟨found, ?_, ?_⟩
      · intro other member
        rcases List.mem_cons.mp member with rfl | member
        · exact here ▸ fits
        · rw [there other member]
          exact fitsLater other member
      · have lookups : rest.map (fun other => (other, found other)) =
            rest.map fun other => (other, later other) :=
          List.map_congr_left fun other member => by rw [there other member]
        have asked : rest.filterMap (fun other => (found other).exchange? project other) =
            rest.filterMap fun other => (later other).exchange? project other :=
          List.filterMap_congr fun other member => by rw [there other member]
        rw [List.map_cons, lookups, List.filterMap_cons, asked, here]
        simp only [Plan.inTurn, Plan.converse_bind, Plan.converse_ask, looked, lookedLater,
          Plan.converse_pure]
        cases first.exchange? project file <;> simp

/-- The coverage holds the tests that were named for a file, and nothing else. -/
theorem get?_coverageOf_map (found : String → Lookup) (files : List String) (file : String) :
    (coverageOf (files.map fun file => (file, found file))).get? file =
      if file ∈ files then (found file).tests? else none := by
  have entries : coverageOf (files.map fun file => (file, found file)) =
      .ofList (files.filterMap fun file => (found file).tests?.map (file, ·)) := by
    rw [coverageOf, List.filterMap_map]
    refine congrArg (fun entry => Dictionary.ofList (files.filterMap entry)) (funext fun file => ?_)
    dsimp only [Function.comp_apply]
    rcases found file with _ | _ | _ | _ <;> rfl
  have follow : ∀ entry ∈ files.filterMap fun file => (found file).tests?.map (file, ·),
      (found entry.1).tests? = some entry.2 := by
    intro entry listed
    obtain ⟨file, _, told⟩ := List.mem_filterMap.mp listed
    obtain ⟨tests, named, rfl⟩ := Option.map_eq_some_iff.mp told
    exact named
  have listed : file ∈ (files.filterMap fun file => (found file).tests?.map (file, ·)).map
      Prod.fst ↔ file ∈ files ∧ ∃ tests, (found file).tests? = some tests := by
    simp [List.mem_map, List.mem_filterMap]
  rw [entries, Dictionary.get?_ofList (fun file => (found file).tests?) follow]
  by_cases member : file ∈ files
  · rw [if_pos member, ite_eq_left_iff]
    intro absent
    cases named : (found file).tests? with
    | none => rfl
    | some tests => exact absurd (listed.mpr ⟨member, tests, named⟩) absent
  · rw [if_neg member, if_neg fun present => member (listed.mp present).1]

end Engine

end TestImpact
