import TestImpact.CommandLine.Run
import TestImpact.Proofs.CommandLine.Switches
import TestImpact.Proofs.Testing.Totals

/-!
# What a summary of results ends with

The command that summarises results prints what is counted in them, whatever they are, and
fails exactly if it is strict and some result failed. It is strict exactly if it is told so.
-/

namespace TestImpact.CommandLine

open Testing

/-- The results that a command names have a text: that of a file, or that on standard input
for a hyphen. -/
def Surroundings.Holds (around : Surroundings Id) (file text : String) : Prop :=
  (if file = "-" then around.input.run else (around.disk.readText file).run) = .ok text

/-- How a command ends that summarises results. -/
structure Reports (outcome : Outcome) (results : List TestResult) (strictly : Prop) : Prop where
  output : outcome.output = (Summary.codec.write (.ofResults results)).toPrettyText ++ "\n"
  /-- The command could be carried out. -/
  failure : outcome.failure = none
  strict : strictly → (outcome.status = 1 ↔ ∃ result ∈ results, result.success = false)
  lenient : ¬ strictly → outcome.status = 0
  /-- There are no other ends. -/
  ends : outcome.status = 0 ∨ outcome.status = 1

variable {around : Surroundings Id} {file text : String} {results : List TestResult}

theorem reports_summarise (valid : parseResults text = .ok results) (strict : Bool) :
    Reports (summarise text strict) results (strict = true) := by
  rw [summarise, valid]
  have failing := Summary.success_ofResults_eq_false_iff results
  exact {
    output := rfl
    failure := rfl
    strict := by
      rintro rfl
      rw [← failing]
      dsimp only
      cases (Summary.ofResults results).success <;> simp
    lenient := by
      intro lenient
      rw [Bool.not_eq_true] at lenient
      rw [lenient]
      rfl
    ends := by
      dsimp only
      split
      · exact .inr rfl
      · exact .inl rfl }

theorem run_runValidate (holds : around.Holds file text) (strict : Bool) :
    (runValidate around file strict).run = summarise text strict := by
  rw [Surroundings.Holds] at holds
  rw [runValidate]
  split at holds
  · rename_i hyphen
    rw [if_pos hyphen, Id.run_bind, holds]
    rfl
  · rename_i named
    rw [if_neg named, Id.run_bind, holds]
    rfl

def validateLine (strict : Bool) (file : String) : List String :=
  "validate" :: ((if strict then ["--strict"] else []) ++ ["--", file])

theorem parse_validateLine (strict : Bool) (named : file ≠ "") :
    parse (validateLine strict file) = .ok ⟨.validate file strict, none⟩ := by
  have word (given : Given) (first : given.words = []) :
      given.addWord ⟨some 1, false⟩ file = .ok { given with words := [file] } := by
    simp [Given.addWord, first, named]
  have read (given : Given) (first : given.words = []) (forms : List OptionForm) :
      readBack forms ⟨some 1, false⟩ given ["--", file] = .ok { given with words := [file] } := by
    rw [readBack, if_pos rfl, List.foldlM_cons, word given first]
    rfl
  have ahead (behind : List String) :
      readFront frontForms .empty ("validate" :: behind) = .ok (.empty, "validate", behind) := by
    rw [readFront, if_pos (by decide)]
  cases strict with
  | false => exact parse_eq_ok (ahead _) (by decide) rfl (read .empty rfl _) rfl
  | true =>
      have switched : readBack (commonForms ++ [helpForm, ⟨"strict", none, .switch⟩])
          ⟨some 1, false⟩ .empty ["--strict", "--", file] = .ok ⟨["strict"], [], [file]⟩ := by
        rw [readBack, if_neg (by decide), if_neg (by decide)]
        exact read ⟨["strict"], [], []⟩ rfl _
      exact parse_eq_ok (ahead _) (by decide) rfl switched rfl

/-- Every result is counted, and batches are counted together as they are counted apart.
Whichever file is named, the command that summarises its results fails exactly if it is
strict and some result failed, and it is strict exactly if `--strict` stands ahead of `--`. -/
theorem failures_decide_status :
    (∀ results, (Summary.ofResults results).Counts results) ∧
      (∀ first second, (Summary.ofResults (first ++ second)).Joins
        (.ofResults first) (.ofResults second)) ∧
      (∀ strict file, file ≠ "" →
        parse (validateLine strict file) = .ok ⟨.validate file strict, none⟩) ∧
      ∀ (around : Surroundings Id) (arguments : List String) (file : String) (strict : Bool)
        (config : Option String) (settings : EngineConfig) (text : String)
        (results : List TestResult),
        parse arguments = .ok ⟨.validate file strict, config⟩ →
        (EngineConfig.load around.disk config around.depth).run = .ok settings →
        around.Holds file text → parseResults text = .ok results →
          Reports (run around arguments).run results
            ("--strict" ∈ arguments.takeWhile (· ≠ "--")) := by
  refine ⟨Summary.counts_ofResults, Summary.joins_ofResults_append,
    fun strict _ named => parse_validateLine strict named, ?_⟩
  intro around arguments file strict config settings text results parsed loads holds valid
  have ended : (run around arguments).run = summarise text strict := by
    rw [run, parsed]
    dsimp only
    rw [Id.run_bind, loads]
    exact run_runValidate holds strict
  rw [ended, ← strict_iff parsed]
  exact reports_summarise valid strict

def shopResults : String :=
  "[\x7b\"success\":true,\"test_path\":\"cart_test.go\"\x7d," ++
    "\x7b\"success\":false,\"test_path\":\"user_test.go\"\x7d]"

def shopTree : FileTree := .directory [(.text "results.json", .file shopResults.toUTF8)]

theorem failures_decide_status_shop :
    let around : Surroundings Id := ⟨shopTree.disk "/", "/", .text "3", .error .notFound⟩
    let lenient := ["--quiet", "validate", "results.json"]
    let settings : EngineConfig := { EngineConfig.usual with depth := 3 }
    (EngineConfig.load around.disk none around.depth).run = .ok settings ∧
      around.Holds "results.json" shopResults ∧
      (∃ results, parseResults shopResults = .ok results ∧
        results.map (·.success) = [true, false]) ∧
      (run around lenient).run.status = 0 ∧
      (run around (lenient ++ ["--strict"])).run.status = 1 := by
  intro around lenient settings
  have loads : (EngineConfig.load around.disk none around.depth).run = .ok settings := by
    decide +kernel
  have holds : around.Holds "results.json" shopResults := by
    change shopTree.readText "/" "results.json" = .ok shopResults
    decide +kernel
  have told : (parseResults shopResults).map (·.map (·.success)) = .ok [true, false] := by
    decide +kernel
  obtain ⟨results, valid, outcomes⟩ := Json.exists_of_map_eq_ok told
  have fails : ∃ result ∈ results, result.success = false := by
    have member : false ∈ results.map (·.success) := outcomes ▸ by decide
    exact List.mem_map.mp member
  obtain ⟨_, _, _, reported⟩ := failures_decide_status
  have reports (strict : Bool) {arguments : List String}
      (parsed : parse arguments = .ok ⟨.validate "results.json" strict, none⟩) :=
    reported around arguments "results.json" strict none settings shopResults results parsed loads
      holds valid
  refine ⟨loads, holds, ⟨results, valid, outcomes⟩, ?_, ?_⟩
  · exact (reports false (by decide +kernel)).lenient (by decide)
  · exact ((reports true (by decide +kernel)).strict (by decide)).mpr fails

end TestImpact.CommandLine
