import TestImpact.Proofs.Affected.Shape
import TestImpact.Proofs.Go.Lookup
import TestImpact.Proofs.Path.Joining

/-!
# Reported tests exist

A test is found in one of two ways: beside its source, or in a listing of the directory of
the source. Either way it was seen where its path leads from the project, unless the name
in the listing is no text: it is reported as it is shown, and nothing need be there. The
command that reports the tests of a change adds none and leaves none out.
-/

namespace TestImpact

def Disk.Coherent (disk : Disk Id) : Prop :=
  ∀ path text, (disk.readText path).run = .ok text → (disk.isPresent path).run = true

/-- A path ends in the name of an entry that is no text, as it is shown. -/
def Disk.ShowsRawName (disk : Disk Id) (place path : String) : Prop :=
  ∃ directory name, disk.HasEntry (Path.join place directory) (.raw name) ∧
    path = Path.join directory (EntryName.raw name).shown

theorem FileTree.coherent_disk (root : FileTree) (directory : String) :
    (root.disk directory).Coherent := by
  intro path text readable
  change root.readText directory path = .ok text at readable
  change (root.locate directory path).isOk = true
  rw [readText] at readable
  cases located : root.locate directory path with
  | ok found => rfl
  | error cause =>
      rw [located] at readable
      cases readable

namespace Path

theorem suffix_join (directory path : String) : path.toList <:+ (join directory path).toList := by
  cases absolute : isAbsolute path with
  | true => rw [join_of_isAbsolute absolute]
  | false =>
      rw [toList_join absolute]
      exact List.suffix_append _ _

end Path

namespace Go

/-- A path of a test file names a file whose name ends as such names do. -/
theorem exists_fileName?_join {directory name : String}
    (ends : testEnding.toList <:+ name.toList) :
    ∃ file, Path.fileName? (Path.join directory name) = some file ∧
      Text.endsWith file testEnding = true := by
  obtain ⟨file, named, suffix⟩ := Path.exists_fileName?_of_suffix
    (ends.trans (Path.suffix_join directory name)) (by decide) (by decide)
  exact ⟨file, named, List.isSuffixOf_iff_suffix.mpr suffix⟩

theorem Declares.isPresent {disk : Disk Id} (coherent : disk.Coherent) {path package : String}
    (declares : Declares disk path package) : (disk.isPresent path).run = true := by
  obtain ⟨source, readable, _⟩ := declares
  exact coherent path source readable

/-- Whichever way a test is found, it is a test file that is there, or whose name is not shown
as it is. -/
theorem Analyzer.isPresent_of_mem_testsOf {disk : Disk Id} (coherent : disk.Coherent)
    {project file test : String} (found : test ∈ (testsOf disk project file).run) :
    ((disk.isPresent (Path.join project test)).run = true ∨ disk.ShowsRawName project test) ∧
      ∃ name, Path.fileName? test = some name ∧ Text.endsWith name testEnding = true := by
  by_cases isGo : Path.extension? file = some "go"
  · rw [run_testsOf disk isGo, List.mem_append, mem_besideOf, mem_othersOf] at found
    rcases found with ⟨present, rfl⟩ | ⟨⟨package, name, _, ⟨entry, ends, declares⟩, rfl⟩, _⟩
    · refine ⟨Or.inl present, exists_fileName?_join ?_⟩
      rw [String.toList_append]
      exact List.suffix_append _ _
    · refine ⟨?_, exists_fileName?_join (List.isSuffixOf_iff_suffix.mp ends)⟩
      cases name with
      | raw name => exact Or.inr ⟨_, name, entry, rfl⟩
      | text name =>
          rw [← Path.join_join]
          rw [entryDeclares_text, entryDeclares_text] at declares
          exact Or.inl (declares.elim (·.isPresent coherent) (·.isPresent coherent))
  · rw [run_testsOf_of_ne disk isGo] at found
    exact absurd found List.not_mem_nil

end Go

namespace Plan

variable {α : Type} (plan : Plan α) (answers : Answers Id)

/-- Carried out on answers that hang on the calls alone, a plan ends as its conversation. -/
theorem run_eq_converse_fixed (past : List Moment) (said : List Exchange) :
    (plan.run answers .never past).run.1 = (plan.converse (.fixed answers) said).1 := by
  induction plan generalizing past said with
  | done value => rfl
  | stop error => rfl
  | checkpoint next ih =>
      rw [converse_checkpoint]
      exact ih false _ _
  | call request next ih =>
      rw [converse_call]
      exact ih (answers request) _ _

theorem answer_of_mem_converse_fixed {said : List Exchange} {exchange : Exchange}
    (heard : exchange ∈ (plan.converse (.fixed answers) said).2) :
    exchange ∈ said ∨ exchange.answer = answers exchange.call := by
  induction plan generalizing said with
  | done value => exact .inl heard
  | stop error => exact .inl heard
  | checkpoint next ih =>
      rw [converse_checkpoint] at heard
      exact ih false heard
  | call request next ih =>
      rw [converse_call] at heard
      rcases ih _ heard with earlier | told
      · rcases List.mem_append.mp earlier with before | now
        · exact .inl before
        · obtain rfl := List.mem_singleton.mp now
          exact .inr rfl
      · exact .inr told

end Plan

namespace Engine

/-- What is covered is covered by what an analyzer answered for an affected file. -/
theorem exists_converse_buildImpact_fixed (engine : Engine) (answers : Answers Id)
    (changed : List String) (project : String) :
    ∃ built heard, (engine.buildImpact changed project).converse (.fixed answers) [] =
        (.ok built, heard) ∧
      ∀ file tests, built.value.coverage.get? file = some tests → file ∈ built.value.affected ∧
        ∃ language, answers (.findTests language file project) = .ok tests := by
  cases answered : answers (.graph project) with
  | error cause =>
      refine ⟨_, _, engine.converse_buildImpact_error (.fixed answers) [] changed answered, ?_⟩
      intro file tests covered
      cases covered
  | ok graph =>
      obtain ⟨found, fits, ended⟩ :=
        engine.converse_buildImpact_found (.fixed answers) [] changed answered
      refine ⟨_, _, ended, fun file tests covered => ?_⟩
      obtain ⟨member, named⟩ := Option.ite_none_right_eq_some.mp
        ((get?_coverageOf_map found _ file).symm.trans covered)
      refine ⟨member, ?_⟩
      have became : found file = .answered (.ok tests) := Lookup.eq_of_tests? named
      have fitting := fits file member
      rw [became] at fitting
      obtain ⟨language, asked⟩ := Lookup.exists_exchange?_of_fits fitting project
      rw [← became] at asked
      have heard : ⟨.findTests language.name file project, .ok tests⟩ ∈
          ((engine.buildImpact changed project).converse (.fixed answers) []).2 := by
        rw [ended]
        exact List.mem_cons_of_mem _ (List.mem_filterMap.mpr ⟨file, member, asked⟩)
      rcases Plan.answer_of_mem_converse_fixed _ answers heard with nothing | told
      · cases nothing
      · exact ⟨language.name, told.symm⟩

end Engine

/-- The tests of an impact are distinct test files, and they are those that its coverage names
for the affected files. They are there, unless their names are not shown as they are. -/
structure Impact.TestsExist (impact : Impact) (disk : Disk Id) (place : String)
    (tests : List String) : Prop where
  distinct : tests.Nodup
  named : ∀ test ∈ tests, ∃ name, Path.fileName? test = some name ∧
    Text.endsWith name "_test.go" = true
  present : ∀ test ∈ tests,
    (disk.isPresent (Path.join place test)).run = true ∨ disk.ShowsRawName place test
  covering : ∀ test ∈ tests, ∃ file ∈ impact.affected, ∃ covering,
    impact.coverage.get? file = some covering ∧ test ∈ covering
  listed : ∀ file covering, impact.coverage.get? file = some covering → covering ⊆ tests

namespace CommandLine

open Listing (mem_firstOccurrences nodup_firstOccurrences)

theorem testsExist_of_coverage {disk : Disk Id} (coherent : disk.Coherent) {impact : Impact}
    {place : String}
    (covered : ∀ file tests, impact.coverage.get? file = some tests → file ∈ impact.affected ∧
      tests = (Go.Analyzer.testsOf disk place file).run) :
    impact.TestsExist disk place impact.tests := by
  have covering {test : String} (member : test ∈ impact.tests) : ∃ file ∈ impact.affected,
      ∃ covering, impact.coverage.get? file = some covering ∧ test ∈ covering := by
    rw [Impact.tests, mem_firstOccurrences, List.mem_flatMap] at member
    obtain ⟨file, affected, listed⟩ := member
    cases found : impact.coverage.get? file with
    | none =>
        rw [found] at listed
        exact absurd listed List.not_mem_nil
    | some tests =>
        rw [found] at listed
        exact ⟨file, affected, tests, found, listed⟩
  have seen {test : String} (member : test ∈ impact.tests) :
      ((disk.isPresent (Path.join place test)).run = true ∨ disk.ShowsRawName place test) ∧
        ∃ name, Path.fileName? test = some name ∧ Text.endsWith name "_test.go" = true := by
    obtain ⟨file, _, tests, found, listed⟩ := covering member
    rw [(covered file tests found).2] at listed
    exact Go.Analyzer.isPresent_of_mem_testsOf coherent listed
  exact {
    distinct := nodup_firstOccurrences _
    named := fun _ member => (seen member).2
    present := fun _ member => (seen member).1
    covering := fun _ member => covering member
    listed := by
      intro file tests found test member
      rw [Impact.tests, mem_firstOccurrences, List.mem_flatMap]
      refine ⟨file, (covered file tests found).1, ?_⟩
      rw [found]
      exact member }

/-- A change is always reported, with its tests. -/
theorem run_runAffected {around : Surroundings Id} (coherent : around.disk.Coherent)
    {project place : String} (leads : (around.disk.canonical project).run = .ok place)
    (config : EngineConfig) (files : List String) (graph : Option String) :
    ∃ impact : Diagnosed Impact,
      (runAffected around config files project graph).run =
        .printed (.object (impactMembers impact)) ∧
      impact.value.TestsExist around.disk place impact.value.tests := by
  let engine : Engine := ⟨registry, config, true, Glob.nestingLimit⟩
  let snapshot : SnapshotFile := ⟨graph.map (Path.join around.directory)⟩
  let analyzer := (Go.Analyzer.ofRoot place).withMarkers config.markers
  obtain ⟨built, heard, ended, covered⟩ := engine.exists_converse_buildImpact_fixed
    (answers around.disk analyzer snapshot) files place
  refine ⟨built, ?_, testsExist_of_coverage coherent fun file tests found => ?_⟩
  · have outcome := Plan.run_eq_converse_fixed (engine.buildImpact files place)
      (answers around.disk analyzer snapshot) [] []
    rw [ended] at outcome
    rw [runAffected, Id.run_bind, leads]
    dsimp only
    rw [Id.run_bind, outcome]
    rfl
  · obtain ⟨affected, language, answered⟩ := covered file tests found
    exact ⟨affected, (Except.ok.inj answered).symm⟩

/-- The tests that the command reports for a change are those of the coverage that it reports,
and they exist, but for those whose names are no texts. -/
theorem affected_tests_exist (around : Surroundings Id) (coherent : around.disk.Coherent)
    {arguments files : List String} {project : String} {graph config : Option String}
    (parsed : parse arguments = .ok ⟨.affected files project graph, config⟩)
    (succeeds : (run around arguments).run.status = 0) :
    ∃ place impact warnings tests, (around.disk.canonical project).run = .ok place ∧
      (run around arguments).run =
        .printed (.object [("value", Impact.codec.write impact), ("warnings", warnings),
          ("tests", Json.texts tests)]) ∧
      impact.TestsExist around.disk place tests := by
  rw [run, parsed] at succeeds ⊢
  dsimp only at succeeds ⊢
  rw [Id.run_bind] at succeeds ⊢
  cases loaded : (EngineConfig.load around.disk config around.depth).run with
  | error cause =>
      rw [loaded] at succeeds
      cases succeeds
  | ok settings =>
      rw [loaded] at succeeds
      dsimp only [runCommand] at succeeds ⊢
      cases leads : (around.disk.canonical project).run with
      | error cause =>
          rw [runAffected, Id.run_bind, leads] at succeeds
          cases succeeds
      | ok place =>
          obtain ⟨impact, printed, exist⟩ :=
            run_runAffected coherent leads settings files graph
          exact ⟨place, impact.value, _, _, rfl, printed, exist⟩

def accentName : RawBytes :=
  ⟨[0x63, 0x61, 0x66, 0xE9, 0x5F, 0x74, 0x65, 0x73, 0x74, 0x2E, 0x67, 0x6F], by decide⟩

/-- A source, two tests of its package, one of them under that name, and an empty graph. -/
def accentTree : FileTree :=
  .directory
    [(.text "cart", .directory
      [(.text "cart.go", .file "package cart\n".toUTF8),
        (.text "cart_test.go", .file "package cart\n".toUTF8),
        (.raw accentName, .file "package cart\n".toUTF8)]),
      (.text "graph.json", .file "\x7b\"nodes\":[],\"edges\":[]\x7d".toUTF8)]

/-- A change of a source with tests, named twice, and of a file of no known language. -/
theorem affected_tests_exist_cart :
    let around : Surroundings Id := ⟨accentTree.disk "/", "/", .unset, .ok ""⟩
    let files := ["cart/cart.go", "/cart/cart.go", "notes"]
    let arguments := "affected" :: "--project" :: "/" :: "--graph" :: "graph.json" :: files
    around.disk.Coherent ∧
      parse arguments = .ok ⟨.affected files "/" (some "graph.json"), none⟩ ∧
      (run around arguments).run.status = 0 ∧
      ∃ place impact warnings tests, (around.disk.canonical "/").run = .ok place ∧
        (run around arguments).run =
          .printed (.object [("value", Impact.codec.write impact), ("warnings", warnings),
            ("tests", Json.texts tests)]) ∧
        impact.TestsExist around.disk place tests := by
  intro around files arguments
  have coherent : around.disk.Coherent := accentTree.coherent_disk "/"
  have parsed : parse arguments = .ok ⟨.affected files "/" (some "graph.json"), none⟩ := by
    decide +kernel
  have succeeds : (run around arguments).run.status = 0 := by decide +kernel
  exact ⟨coherent, parsed, succeeds, affected_tests_exist around coherent parsed succeeds⟩

/-- The test without a text for a name is reported under a path that leads nowhere. -/
theorem absent_test_reported :
    let around : Surroundings Id := ⟨accentTree.disk "/", "/", .unset, .ok ""⟩
    let arguments := ["affected", "--project", "/", "--graph", "graph.json", "cart/cart.go"]
    let absent := "cart/caf\uFFFD_test.go"
    let tests := ["cart/cart_test.go", absent]
    ∃ impact, (run around arguments).run =
        .printed (.object [("value", Impact.codec.write impact), ("warnings", .array []),
          ("tests", Json.texts tests)]) ∧
      impact.tests = tests ∧ (around.disk.canonical "/").run = .ok "/" ∧
      (around.disk.isPresent (Path.join "/" absent)).run = false := by
  intro around arguments absent tests
  let impact : Impact :=
    ⟨["cart/cart.go"], ["cart/cart.go"], .ofList [("cart/cart.go", [])],
      .ofList [("cart/cart.go", tests)]⟩
  exact ⟨impact, by decide +kernel, by decide +kernel, by decide +kernel, by decide +kernel⟩

end CommandLine

end TestImpact
