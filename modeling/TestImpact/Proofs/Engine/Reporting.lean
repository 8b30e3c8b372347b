import TestImpact.Proofs.Affected.Accounting
import TestImpact.Proofs.Engine.Cancellation
import TestImpact.Proofs.Engine.Fallback

/-!
# What a run for a change reports

Nothing that goes wrong in a run for a change is lost. Its warnings are those of the
impact, then one for each exchange that failed, in the order in which they were said, and
at the end of the preparation one that tells of a full run. A warning about a file or a
test has it as its subject.
-/

namespace TestImpact

open Testing

def Exchange.mishap? : Exchange → Option Warning
  | ⟨.findTests _ file _, .error cause⟩ => some ⟨.testLookupFailed, some file, cause.message⟩
  | ⟨.discover language _, .error cause⟩ => some (Engine.smokeWarning language (.discovery cause))
  | ⟨.isSmoke _ test, .error cause⟩ => some ⟨.smokeCheckFailed, some test, cause.message⟩
  | ⟨.runTest test _, .error cause⟩ => some ⟨.testExecutionFailed, some test, cause.message⟩
  | _ => none

/-- Whether a warning about a file or a test has it as its subject: an affected file of no
known type, a file whose lookup failed, a test that could not be checked or run. -/
def Warning.NamesSubject (files : List String) (said : List Exchange) (warning : Warning) : Prop :=
  match warning.kind with
  | .unsupportedFileType =>
      ∃ file ∈ files, SourceLanguage.ofPath? file = none ∧ warning.subject = some file
  | .testLookupFailed => ∃ language file project cause,
      (⟨.findTests language file project, .error cause⟩ : Exchange) ∈ said ∧
        warning.subject = some file
  | .smokeCheckFailed => ∃ language test cause,
      (⟨.isSmoke language test, .error cause⟩ : Exchange) ∈ said ∧ warning.subject = some test
  | .testExecutionFailed => ∃ test settings cause,
      (⟨.runTest test settings, .error cause⟩ : Exchange) ∈ said ∧ warning.subject = some test
  | _ => True

namespace Warning

theorem NamesSubject.mono {files : List String} {said more : List Exchange} {warning : Warning}
    (subset : said ⊆ more) (names : warning.NamesSubject files said) :
    warning.NamesSubject files more := by
  rw [NamesSubject] at names ⊢
  cases kind : warning.kind <;> rw [kind] at names
  case testLookupFailed =>
    obtain ⟨language, file, project, cause, failed, subject⟩ := names
    exact ⟨language, file, project, cause, subset failed, subject⟩
  case smokeCheckFailed =>
    obtain ⟨language, test, cause, failed, subject⟩ := names
    exact ⟨language, test, cause, subset failed, subject⟩
  case testExecutionFailed =>
    obtain ⟨test, settings, cause, failed, subject⟩ := names
    exact ⟨test, settings, cause, subset failed, subject⟩
  all_goals exact names

/-- The warning of an exchange names what the exchange was about. -/
theorem namesSubject_mishap {files : List String} {said : List Exchange} {exchange : Exchange}
    (member : exchange ∈ said) {warning : Warning}
    (mishap : exchange.mishap? = some warning) : warning.NamesSubject files said := by
  unfold Exchange.mishap? at mishap
  split at mishap <;> cases mishap
  · exact ⟨_, _, _, _, member, rfl⟩
  · trivial
  · exact ⟨_, _, _, member, rfl⟩
  · exact ⟨_, _, _, member, rfl⟩

end Warning

namespace Engine

/-- Failures that are read off exchanges one by one are the mishaps of these. -/
theorem failureWarnings_filterMap {α : Type} {kind : WarningKind}
    {read : Exchange → Option (String × Except Failure α)} {said : List Exchange}
    (agree : ∀ exchange ∈ said,
      failureWarnings kind (read exchange).toList = exchange.mishap?.toList) :
    failureWarnings kind (said.filterMap read) = said.filterMap Exchange.mishap? := by
  induction said with
  | nil => rfl
  | cons exchange rest ih =>
      obtain ⟨first, later⟩ := List.forall_mem_cons.mp agree
      have split (exchanges : List Exchange) {β : Type} (give : Exchange → Option β) :
          (exchange :: exchanges).filterMap give =
            (give exchange).toList ++ exchanges.filterMap give := by
        rw [List.filterMap_cons]
        cases give exchange <;> rfl
      rw [split, split, failureWarnings, List.filterMap_append]
      exact congrArg₂ (· ++ ·) first (ih later)

variable {config : RunConfig} {files : List String}

/-- What a search for smoke tests warns of is what went wrong in it. -/
theorem searchWarnings_eq_mishaps {searched : List Exchange}
    (search : SmokeSearch config searched) :
    searchWarnings config searched = searched.filterMap Exchange.mishap? := by
  cases search with
  | unwanted plain => rfl
  | undiscovered wanted cause => rfl
  | checked wanted tests checks calls =>
      apply @failureWarnings_filterMap _ _ _ (_ :: checks)
      intro exchange member
      rcases List.mem_cons.mp member with rfl | check
      · rfl
      · obtain ⟨test, _, question⟩ := exists_question calls check
        obtain ⟨call, answer⟩ := exchange
        obtain rfl : smokeCall config test = call := question
        cases answer <;> rfl

/-- What the preparation of a run warns of is what went wrong in it. -/
theorem Preparation.warnings_eq_mishaps (prepared : Preparation config files) :
    prepared.warnings = prepared.said.filterMap Exchange.mishap? := by
  have lookups : failureWarnings .testLookupFailed
      (prepared.lookups.filterMap Exchange.lookup?) =
        prepared.lookups.filterMap Exchange.mishap? := by
    apply failureWarnings_filterMap
    intro exchange member
    obtain ⟨file, _, question⟩ := exists_question prepared.looked_up member
    obtain ⟨call, answer⟩ := exchange
    obtain rfl : lookupCall config file = call := question
    cases answer <;> rfl
  rw [Preparation.warnings, lookups, searchWarnings_eq_mishaps prepared.searched,
    Preparation.said, List.filterMap_append]

theorem failureWarnings_testRuns {runs : List Exchange} {tests : List String}
    (calls : runs.map (·.call) = tests.map (runCall config)) :
    failureWarnings .testExecutionFailed (runs.filterMap Exchange.testRun?) =
      runs.filterMap Exchange.mishap? := by
  apply failureWarnings_filterMap
  intro exchange member
  obtain ⟨test, _, question⟩ := exists_question calls member
  obtain ⟨call, answer⟩ := exchange
  obtain rfl : runCall config test = call := question
  cases answer <;> rfl

def FullRun (config : RunConfig) (filter : PathFilter) (said : List Exchange) : Prop :=
  ∃ tests results, said =
    [⟨.discover config.language config.project, .ok tests⟩,
     ⟨.runSuite (selectedSuite config filter tests), .ok results⟩]

/-- What a targeted run that ends well warns of, by what is said in it. -/
inductive Reports (engine : Engine) (config : RunConfig) (filter : PathFilter)
    (files : List String) : List Exchange → List Warning → Prop where
  /-- Without an analyzer, only this is told. -/
  | unanalyzed {full : List Exchange}
      (lacking : engine.registry.hasAnalyzer config.language = false)
      (ran : FullRun config filter full) :
      Reports engine config filter files full [analyzerWarning config.language]
  /-- If nothing is selected, this is told behind what went wrong so far. -/
  | unselected {full : List Exchange}
      (analyzed : engine.registry.hasAnalyzer config.language = true)
      (prepared : Preparation config files) (nothing : prepared.selected filter = [])
      (ran : FullRun config filter full) :
      Reports engine config filter files (prepared.said ++ full)
        (prepared.said.filterMap Exchange.mishap? ++ [selectionWarning files])
  /-- Otherwise all that went wrong is told, and nothing else. -/
  | selected {runs : List Exchange}
      (analyzed : engine.registry.hasAnalyzer config.language = true)
      (prepared : Preparation config files) (something : prepared.selected filter ≠ [])
      (calls : runs.map (·.call) = (prepared.selected filter).map (runCall config)) :
      Reports engine config filter files (prepared.said ++ runs)
        ((prepared.said ++ runs).filterMap Exchange.mishap?)

theorem Reports.namesSubject {engine : Engine} {filter : PathFilter} {said : List Exchange}
    {warnings : List Warning} (reports : engine.Reports config filter files said warnings)
    {warning : Warning} (member : warning ∈ warnings) : warning.NamesSubject files said := by
  cases reports with
  | unanalyzed lacking ran =>
      obtain rfl := List.mem_singleton.mp member
      trivial
  | unselected analyzed prepared nothing ran =>
      rcases List.mem_append.mp member with went | last
      · obtain ⟨exchange, heard, mishap⟩ := List.mem_filterMap.mp went
        exact Warning.namesSubject_mishap (List.mem_append_left _ heard) mishap
      · obtain rfl := List.mem_singleton.mp last
        trivial
  | selected analyzed prepared something calls =>
      obtain ⟨exchange, heard, mishap⟩ := List.mem_filterMap.mp member
      exact Warning.namesSubject_mishap heard mishap

variable {engine : Engine} {collaborators : Collaborators} {said heard : List Exchange}

theorem runnable_of_runTargeted_ok {impact : Impact} {results : Diagnosed (List TestResult)}
    (ended : (engine.runTargeted config impact).converse collaborators said =
      (.ok results, heard)) :
    engine.registry.hasRunner config.language = true ∧
      ∃ filter, engine.pathFilter config = .ok filter := by
  rw [runTargeted, requireRunner] at ended
  split at ended
  · rename_i runner
    refine ⟨runner, ?_⟩
    cases narrowed : engine.pathFilter config with
    | ok filter => exact ⟨filter, rfl⟩
    | error bad =>
        rw [narrowed] at ended
        cases ended
  · cases ended

/-- A full run that ends well discovers the tests, runs their suite, and warns of nothing. -/
theorem fullRun_of_runTests_ok (runner : engine.registry.hasRunner config.language = true)
    {filter : PathFilter} (narrowed : engine.pathFilter config = .ok filter)
    {results : Diagnosed (List TestResult)}
    (ended : (engine.runTests config).converse collaborators said = (.ok results, heard)) :
    results.warnings = [] ∧ ∃ full, heard = said ++ full ∧ FullRun config filter full := by
  cases answered : collaborators said (.discover config.language config.project) with
  | error cause =>
      rw [converse_runTests_error collaborators said runner narrowed answered] at ended
      cases ended
  | ok tests =>
      have ran := converse_runTests collaborators said runner narrowed answered
      dsimp only at ran
      rw [ended] at ran
      obtain ⟨outcome, spoken⟩ := Prod.mk.inj ran
      split at outcome
      · rename_i passed replied
        cases outcome
        refine ⟨rfl, _, spoken, tests, passed, ?_⟩
        rw [suiteExchange, replied, discovery, answered]
      · cases outcome

/-- A targeted run that ends well reports what went wrong in it. -/
theorem reports_runTargeted {impact : Impact} {results : Diagnosed (List TestResult)}
    (ended : (engine.runTargeted config impact).converse collaborators said =
      (.ok results, heard)) :
    ∃ filter rest, engine.pathFilter config = .ok filter ∧ heard = said ++ rest ∧
      engine.Reports config filter impact.affected rest results.warnings := by
  obtain ⟨runner, filter, narrowed⟩ := runnable_of_runTargeted_ok ended
  have goesOn {earlier : List Warning} {spoken : List Exchange}
      (continued : (Except.map (Diagnosed.after earlier)
          ((engine.runTests config).converse collaborators spoken).1,
        ((engine.runTests config).converse collaborators spoken).2) = (.ok results, heard)) :
      results.warnings = earlier ∧ ∃ full, heard = spoken ++ full ∧
        FullRun config filter full := by
    rcases ran : (engine.runTests config).converse collaborators spoken with ⟨_ | all, spokenAll⟩
    · rw [ran] at continued
      cases continued
    · rw [ran] at continued
      cases continued
      obtain ⟨clean, full, more, whole⟩ := fullRun_of_runTests_ok runner narrowed ran
      refine ⟨?_, full, more, whole⟩
      rw [Diagnosed.after, clean, List.append_nil]
  cases analyzer : engine.registry.hasAnalyzer config.language with
  | false =>
      rw [converse_runTargeted_unanalyzed collaborators said runner analyzer narrowed impact]
        at ended
      obtain ⟨warned, full, more, whole⟩ := goesOn ended
      refine ⟨filter, full, narrowed, more, ?_⟩
      rw [warned]
      exact .unanalyzed analyzer whole
  | true =>
      let prepared := preparation config collaborators said impact.affected
      have continued :=
        converse_runTargeted_preparation collaborators said runner analyzer narrowed impact
      dsimp only at continued
      rw [ended] at continued
      by_cases nothing : prepared.selected filter = []
      · rw [nothing, converse_runSelected_nil] at continued
        obtain ⟨warned, full, more, whole⟩ := goesOn continued.symm
        refine ⟨filter, prepared.said ++ full, narrowed, ?_, ?_⟩
        · rw [more, List.append_assoc]
        · rw [warned, prepared.warnings_eq_mishaps]
          exact .unselected analyzer prepared nothing whole
      · rw [converse_runSelected_outcome _ _ _ _ nothing] at continued
        have calls := collaborators.map_call_interview (said ++ prepared.said)
          ((prepared.selected filter).map (runCall config))
        cases continued
        refine ⟨filter, _, narrowed, List.append_assoc _ _ _, ?_⟩
        dsimp only
        rw [failureWarnings_testRuns calls, prepared.warnings_eq_mishaps,
          ← List.filterMap_append]
        exact .selected analyzer prepared nothing calls

/-- What an impact warns of has the file as its subject where it is about one. -/
theorem namesSubject_buildImpact {changed : List String} {project : String}
    {built : Diagnosed Impact}
    (ended : (engine.buildImpact changed project).converse collaborators said = (.ok built, heard))
    {warning : Warning} (member : warning ∈ built.warnings) :
    warning.NamesSubject built.value.affected heard := by
  cases answered : collaborators said (.graph project) with
  | error cause =>
      rw [engine.converse_buildImpact_error collaborators said changed answered] at ended
      cases ended
      obtain rfl := List.mem_singleton.mp member
      trivial
  | ok graph =>
      obtain ⟨found, fits, whole⟩ :=
        engine.converse_buildImpact_found collaborators said changed answered
      rw [whole] at ended
      cases ended
      obtain ⟨file, affected, told⟩ := List.mem_filterMap.mp member
      have fitting := fits file affected
      have asked {exchange : Exchange}
          (question : (found file).exchange? project file = some exchange) :
          exchange ∈ (impactOf changed ((Listing.firstOccurrences changed).map
            (engine.reachedFrom graph))).affected.filterMap
              fun file => (found file).exchange? project file :=
        List.mem_filterMap.mpr ⟨file, affected, question⟩
      cases became : found file with
      | unsupported type =>
          rw [became] at told fitting
          cases told
          exact ⟨file, affected, fitting.1, rfl⟩
      | unanalyzed language =>
          rw [became] at told
          obtain ⟨_, same⟩ := Option.ite_none_right_eq_some.mp told
          cases same
          trivial
      | answered answer =>
          rw [became] at told fitting
          obtain ⟨language, ofPath, _⟩ := fitting
          cases answer with
          | ok tests => cases told
          | error cause =>
              cases told
              refine ⟨language.name, file, project, cause, ?_, rfl⟩
              refine List.mem_append_right _ (List.mem_cons_of_mem _ (asked ?_))
              rw [became, Lookup.exchange?, ofPath]
              rfl

end Engine

end TestImpact
