import TestImpact.Proofs.Affected.Extent

/-!
# What becomes of every affected file

Every affected file is looked up once, and what becomes of it shows: in the coverage if
the analyzer of its language names tests, and otherwise in a warning. The warnings stand
in the order of the files; the first file of a language without an analyzer speaks for
all files of that language.
-/

namespace TestImpact

open Listing (firstOccurrences nodup_firstOccurrences foldl_collect)

def Exchange.asksFor (file : String) (exchange : Exchange) : Bool :=
  match exchange.call with
  | .findTests _ other _ => other = file
  | _ => false

def Warning.tells (kind : WarningKind) (subject : String) (warning : Warning) : Bool :=
  warning.kind = kind && warning.subject = some subject

namespace Lookup

def warning? (files : List String) (file : String) : Lookup → Option Warning
  | unsupported type =>
      some ⟨.unsupportedFileType, some file, (EngineError.unsupportedFileType type).message⟩
  | unanalyzed language =>
      if files.find? (SourceLanguage.ofPath? · = some language) = some file then
        some ⟨.analyzerMissing, some language.name,
          "no test analyzer registered; files of this language are not mapped"⟩
      else none
  | answered (.ok _) => none
  | answered (.error cause) =>
      some ⟨.testLookupFailed, some file, (EngineError.testLookup file cause).message⟩

/-- The kind and the subject of the warning that tells of a lookup, if one has to. -/
def topic? (file : String) : Lookup → Option (WarningKind × String)
  | unsupported _ => some (.unsupportedFileType, file)
  | unanalyzed language => some (.analyzerMissing, language.name)
  | answered (.ok _) => none
  | answered (.error _) => some (.testLookupFailed, file)

theorem tells_iff {files : List String} {file : String} {lookup : Lookup} {warning : Warning}
    (told : lookup.warning? files file = some warning) {kind : WarningKind} {subject : String} :
    warning.tells kind subject = true ↔ lookup.topic? file = some (kind, subject) := by
  rcases lookup with type | language | cause | tests
  · cases told
    simp [Warning.tells, topic?]
  · obtain ⟨_, same⟩ := Option.ite_none_right_eq_some.mp told
    cases same
    simp [Warning.tells, topic?]
  · cases told
    simp [Warning.tells, topic?]
  · cases told

/-- A file is the subject of no other file's warning. -/
theorem eq_of_topic? {lookup : Lookup} {file other : String} {kind : WarningKind}
    (topic : lookup.topic? other = some (kind, file)) (ownKind : kind ≠ .analyzerMissing) :
    other = file := by
  unfold topic? at topic
  split at topic <;> simp_all

theorem eq_unanalyzed_of_topic? {lookup : Lookup} {file : String} {language : SourceLanguage}
    (topic : lookup.topic? file = some (.analyzerMissing, language.name)) :
    lookup = .unanalyzed language := by
  unfold topic? at topic
  split at topic
  · cases topic
  · rw [SourceLanguage.name_injective (Prod.mk.inj (Option.some.inj topic)).2]
  · cases topic
  · cases topic

end Lookup

namespace Engine

/-- A lookup of an affected file as it shows in what a build gives and in what was said
with the analyzers. -/
def Shows (engine : Engine) (project : String) (impact : Impact) (warnings : List Warning)
    (asked : List Exchange) (file : String) : Lookup → Prop
  | .answered (.ok tests) => ∃ language, SourceLanguage.ofPath? file = some language ∧
      engine.registry.hasAnalyzer language.name = true ∧
      asked.filter (·.asksFor file) = [⟨.findTests language.name file project, .ok tests⟩] ∧
      impact.coverage.get? file = some tests
  | .unsupported type => SourceLanguage.ofPath? file = none ∧
      type = SourceLanguage.unknownType file ∧
      asked.filter (·.asksFor file) = [] ∧ impact.coverage.get? file = none ∧
      warnings.countP (·.tells .unsupportedFileType file) = 1
  | .unanalyzed language => SourceLanguage.ofPath? file = some language ∧
      engine.registry.hasAnalyzer language.name = false ∧
      asked.filter (·.asksFor file) = [] ∧ impact.coverage.get? file = none ∧
      warnings.countP (·.tells .analyzerMissing language.name) = 1
  | .answered (.error cause) => ∃ language, SourceLanguage.ofPath? file = some language ∧
      engine.registry.hasAnalyzer language.name = true ∧
      asked.filter (·.asksFor file) = [⟨.findTests language.name file project, .error cause⟩] ∧
      impact.coverage.get? file = none ∧
      warnings.countP (·.tells .testLookupFailed file) = 1

/-- Among what one list of distinct items gives, an item is known by what it gives alone. -/
theorem filter_filterMap_of_own {α β : Type} {items : List α} (distinct : items.Nodup) {item : α}
    (member : item ∈ items) {give : α → Option β} {isOwn : β → Bool}
    (own : ∀ given, give item = some given → isOwn given = true)
    (others : ∀ other ∈ items, other ≠ item → ∀ given, give other = some given →
      isOwn given = false) :
    (items.filterMap give).filter isOwn = (give item).toList := by
  obtain ⟨before, after, rfl⟩ := List.append_of_mem member
  obtain ⟨_, apart, disjoint⟩ := List.nodup_append.mp distinct
  have foreign (part : List α) (among : ∀ other ∈ part, other ∈ before ++ item :: after)
      (without : item ∉ part) : (part.filterMap give).filter isOwn = [] := by
    rw [List.filter_eq_nil_iff]
    intro given found
    obtain ⟨other, listed, gives⟩ := List.mem_filterMap.mp found
    have differs : other ≠ item := fun same => without (same ▸ listed)
    rw [others other (among other listed) differs given gives]
    exact Bool.false_ne_true
  have early := foreign before (fun _ listed => List.mem_append_left _ listed)
    fun earlier => disjoint item earlier item (List.mem_cons_self ..) rfl
  have late := foreign after
    (fun _ listed => List.mem_append_right _ (List.mem_cons_of_mem _ listed))
    (List.nodup_cons.mp apart).1
  rw [List.filterMap_append, List.filter_append, early, List.nil_append]
  cases gives : give item with
  | none =>
      rw [List.filterMap_cons_none gives, late]
      rfl
  | some given =>
      rw [List.filterMap_cons_some gives, List.filter_cons_of_pos (own given gives), late]
      rfl

variable (engine : Engine) (collaborators : Collaborators) (said : List Exchange)

theorem nodup_affected_impactOf (changed : List String) (reached : List Reached) :
    (impactOf changed reached).affected.Nodup := by
  have affected : (impactOf changed reached).affected = _ := foldl_collect _ _
  rw [affected, List.nodup_append]
  refine ⟨nodup_firstOccurrences changed, (nodup_firstOccurrences _).filter _, ?_⟩
  rintro file changes _ beyond rfl
  exact of_decide_eq_true (List.mem_filter.mp beyond).2 changes

def Told (registry : Registry) (files : List String) (told : List SourceLanguage) : Prop :=
  ∀ language, registry.hasAnalyzer language.name = false →
    (language ∈ told ↔ ∃ file ∈ files, SourceLanguage.ofPath? file = some language)

namespace Told

variable {registry : Registry} {files : List String} {told : List SourceLanguage} {file : String}

/-- A file that does not lack an analyzer shows nothing. -/
theorem skip (known : Told registry files told)
    (silent : ∀ language, SourceLanguage.ofPath? file = some language →
      registry.hasAnalyzer language.name = true) : Told registry (files ++ [file]) told := by
  intro language unanalyzed
  have other : SourceLanguage.ofPath? file ≠ some language := fun same =>
    Bool.false_ne_true (unanalyzed.symm.trans (silent language same))
  simp [known language unanalyzed, or_and_right, exists_or, other]

theorem tell (known : Told registry files told) {language : SourceLanguage}
    (ofPath : SourceLanguage.ofPath? file = some language) :
    Told registry (files ++ [file]) (language :: told) := by
  intro other unanalyzed
  simp [known other unanalyzed, or_and_right, exists_or, ofPath, or_comm, eq_comm]

/-- A language that is known already is shown once more. -/
theorem again (known : Told registry files told) {language : SourceLanguage}
    (ofPath : SourceLanguage.ofPath? file = some language) (already : language ∈ told) :
    Told registry (files ++ [file]) told := by
  intro other unanalyzed
  rw [← known.tell ofPath other unanalyzed, List.mem_cons]
  exact (or_iff_right_of_imp fun same => same ▸ already).symm

end Told

/-- A file is the first of its language unless one before it is of that language. -/
theorem find?_language_eq_some {before : List String} {file : String} (rest : List String)
    (new : file ∉ before) {language : SourceLanguage}
    (ofPath : SourceLanguage.ofPath? file = some language) :
    (before ++ file :: rest).find? (SourceLanguage.ofPath? · = some language) = some file ↔
      ¬ ∃ earlier ∈ before, SourceLanguage.ofPath? earlier = some language := by
  have head : (file :: rest).find? (SourceLanguage.ofPath? · = some language) = some file :=
    List.find?_cons_of_pos (decide_eq_true ofPath)
  rw [List.find?_append, head]
  constructor
  · rintro first ⟨earlier, member, same⟩
    cases found : before.find? (SourceLanguage.ofPath? · = some language) with
    | none => exact List.find?_eq_none.mp found earlier member (decide_eq_true same)
    | some other =>
        rw [found] at first
        obtain rfl : other = file := Option.some.inj first
        exact new (List.mem_of_find?_eq_some found)
  · intro none
    rw [List.find?_eq_none.mpr fun earlier member same =>
      none ⟨earlier, member, of_decide_eq_true same⟩]
    rfl

/-- The warnings stand in the order of the files, and a language without an analyzer is
told at its first file. -/
theorem lookupWarnings_map {registry : Registry} {found : String → Lookup}
    {before rest : List String} {told : List SourceLanguage} (distinct : (before ++ rest).Nodup)
    (fits : ∀ file ∈ rest, (found file).Fits registry file) (known : Told registry before told) :
    lookupWarnings told (rest.map fun file => (file, found file)) =
      rest.filterMap fun file => (found file).warning? (before ++ rest) file := by
  induction rest generalizing before told with
  | nil => rfl
  | cons file rest ih =>
      obtain ⟨first, later⟩ := List.forall_mem_cons.mp fits
      have new : file ∉ before := fun member =>
        (List.nodup_append.mp distinct).2.2 file member file (List.mem_cons_self ..) rfl
      have moved : before ++ file :: rest = (before ++ [file]) ++ rest := by simp
      have goOn {told : List SourceLanguage} (known : Told registry (before ++ [file]) told) :
          lookupWarnings told (rest.map fun file => (file, found file)) =
            rest.filterMap fun other => (found other).warning? (before ++ file :: rest) other := by
        rw [moved] at distinct ⊢
        exact ih distinct later known
      rw [List.map_cons]
      cases became : found file with
      | unsupported type =>
          rw [became] at first
          rw [lookupWarnings, goOn (known.skip (by simp [first.1])),
            List.filterMap_cons_some (by rw [became]; rfl)]
      | unanalyzed language =>
          rw [became] at first
          obtain ⟨ofPath, unanalyzed⟩ := first
          have position := find?_language_eq_some rest new ofPath
          rw [lookupWarnings]
          split
          · rename_i already
            rw [goOn (known.again ofPath already), List.filterMap_cons_none]
            rw [became]
            exact if_neg fun isFirst =>
              position.mp isFirst ((known language unanalyzed).mp already)
          · rename_i unheard
            rw [goOn (known.tell ofPath), List.filterMap_cons_some]
            rw [became]
            exact if_pos (position.mpr fun earlier =>
              unheard ((known language unanalyzed).mpr earlier))
      | answered answer =>
          rw [became] at first
          obtain ⟨language, ofPath, analyzer⟩ := first
          have silent : ∀ other, SourceLanguage.ofPath? file = some other →
              registry.hasAnalyzer other.name = true := by
            intro other same
            obtain rfl : language = other := Option.some.inj (ofPath.symm.trans same)
            exact analyzer
          cases answer with
          | ok tests =>
              rw [lookupWarnings, goOn (known.skip silent),
                List.filterMap_cons_none (by rw [became]; rfl)]
          | error cause =>
              rw [lookupWarnings, goOn (known.skip silent),
                List.filterMap_cons_some (by rw [became]; rfl)]

/-- With a graph, every affected file is looked up once, and that is all that is asked of
the analyzers. -/
theorem converse_buildImpact_found {graph : SymbolGraph} {project : String}
    (changed : List String) (delivered : collaborators said (.graph project) = .ok graph) :
    let impact := impactOf changed ((firstOccurrences changed).map (engine.reachedFrom graph))
    ∃ found : String → Lookup,
      (∀ file ∈ impact.affected, (found file).Fits engine.registry file) ∧
      (engine.buildImpact changed project).converse collaborators said =
        (.ok ⟨{ impact with coverage := coverageOf (impact.affected.map fun file =>
            (file, found file)) },
          impact.affected.filterMap fun file => (found file).warning? impact.affected file⟩,
        said ++ graphExchange collaborators said project ::
          impact.affected.filterMap fun file => (found file).exchange? project file) := by
  intro impact
  have distinct : impact.affected.Nodup := nodup_affected_impactOf changed _
  obtain ⟨found, fits, looked⟩ := engine.converse_inTurn_lookUp collaborators
    (said ++ [graphExchange collaborators said project]) project distinct
  have unheard : Told engine.registry [] [] := fun _ _ => by simp
  rw [List.append_assoc, List.singleton_append] at looked
  refine ⟨found, fits, ?_⟩
  have warned : lookupWarnings [] (impact.affected.map fun file => (file, found file)) =
      impact.affected.filterMap fun file => (found file).warning? impact.affected file :=
    lookupWarnings_map (show ([] ++ impact.affected).Nodup from distinct) fits unheard
  rw [engine.converse_buildImpact_lookups collaborators said changed delivered looked, warned]

section Shown

variable {engine} {project : String} {files : List String} {found : String → Lookup} {file : String}
  (distinct : files.Nodup) (member : file ∈ files)

include distinct member

/-- What was asked for a file is the exchange of its lookup. -/
theorem filter_asksFor :
    (files.filterMap fun file => (found file).exchange? project file).filter (·.asksFor file) =
      ((found file).exchange? project file).toList := by
  have about {other : String} {exchange : Exchange}
      (asked : (found other).exchange? project other = some exchange) :
      exchange.asksFor file = decide (other = file) := by
    unfold Lookup.exchange? at asked
    split at asked
    · obtain ⟨language, _, rfl⟩ := Option.map_eq_some_iff.mp asked
      rfl
    · cases asked
  apply filter_filterMap_of_own distinct member
  · intro exchange asked
    rw [about asked]
    exact decide_eq_true rfl
  · intro other _ differs exchange asked
    rw [about asked]
    exact decide_eq_false differs

/-- A file whose topic no other file warns of is the subject of one warning. -/
theorem countP_tells {warning : Warning}
    (told : (found file).warning? files file = some warning) {kind : WarningKind}
    {subject : String} (topic : (found file).topic? file = some (kind, subject))
    (others : ∀ other ∈ files, other ≠ file → (found other).topic? other = some (kind, subject) →
      (found other).warning? files other = none) :
    (files.filterMap fun file => (found file).warning? files file).countP
      (·.tells kind subject) = 1 := by
  rw [List.countP_eq_length_filter, filter_filterMap_of_own distinct member, told]
  · rfl
  · intro given gives
    exact (Lookup.tells_iff gives).mpr topic
  · intro other listed differs given gives
    apply Bool.eq_false_iff.mpr
    intro tells
    have none := others other listed differs ((Lookup.tells_iff gives).mp tells)
    cases none.symm.trans gives

end Shown

section Shown

variable {engine} {project : String} {files : List String} {found : String → Lookup}
  {file : String}

/-- The one warning about a language without an analyzer is that of its first file. -/
theorem countP_tells_of_unanalyzed (distinct : files.Nodup)
    (fits : ∀ file ∈ files, (found file).Fits engine.registry file) (member : file ∈ files)
    {language : SourceLanguage} (ofPath : SourceLanguage.ofPath? file = some language)
    (unanalyzed : engine.registry.hasAnalyzer language.name = false) :
    (files.filterMap fun file => (found file).warning? files file).countP
      (·.tells .analyzerMissing language.name) = 1 := by
  obtain ⟨first, isFirst⟩ := Option.isSome_iff_exists.mp
    (List.find?_isSome (p := (SourceLanguage.ofPath? · = some language)) |>.mpr
      ⟨file, member, decide_eq_true ofPath⟩)
  have listed : first ∈ files := List.mem_of_find?_eq_some isFirst
  have firstOfPath : SourceLanguage.ofPath? first = some language := by
    simpa using List.find?_some isFirst
  have became : found first = .unanalyzed language := by
    have fitsFirst := fits first listed
    cases looked : found first with
    | unsupported type =>
        rw [looked] at fitsFirst
        cases fitsFirst.1.symm.trans firstOfPath
    | unanalyzed other =>
        rw [looked] at fitsFirst
        rw [Option.some.inj (fitsFirst.1.symm.trans firstOfPath)]
    | answered answer =>
        rw [looked] at fitsFirst
        obtain ⟨other, otherOfPath, analyzed⟩ := fitsFirst
        obtain rfl : other = language := Option.some.inj (otherOfPath.symm.trans firstOfPath)
        cases analyzed.symm.trans unanalyzed
  apply countP_tells distinct listed
  · rw [became]
    exact if_pos isFirst
  · rw [became]
    rfl
  · intro other _ differs topic
    rw [Lookup.eq_unanalyzed_of_topic? topic]
    exact if_neg fun alsoFirst => differs (Option.some.inj (alsoFirst.symm.trans isFirst))

/-- What became of a file shows. -/
theorem shows_found (distinct : files.Nodup)
    (fits : ∀ file ∈ files, (found file).Fits engine.registry file) (member : file ∈ files)
    (impact : Impact)
    (covered : impact.coverage = coverageOf (files.map fun file => (file, found file))) :
    engine.Shows project impact
      (files.filterMap fun file => (found file).warning? files file)
      (files.filterMap fun file => (found file).exchange? project file) file (found file) := by
  have asked := @filter_asksFor project _ found _ distinct member
  have tests : impact.coverage.get? file = (found file).tests? := by
    rw [covered, get?_coverageOf_map, if_pos member]
  have fitting := fits file member
  have warned {warning : Warning} (told : (found file).warning? files file = some warning)
      {kind : WarningKind} (topic : (found file).topic? file = some (kind, file))
      (own : kind ≠ .analyzerMissing) :
      (files.filterMap fun file => (found file).warning? files file).countP
        (·.tells kind file) = 1 := by
    apply countP_tells distinct member told topic
    intro other _ differs same
    exact absurd (Lookup.eq_of_topic? same own) differs
  cases became : found file with
  | unsupported type =>
      rw [became] at asked tests fitting warned
      exact ⟨fitting.1, fitting.2, asked, tests, warned rfl rfl (by decide)⟩
  | unanalyzed language =>
      rw [became] at asked tests fitting
      exact ⟨fitting.1, fitting.2, asked, tests,
        countP_tells_of_unanalyzed distinct fits member fitting.1 fitting.2⟩
  | answered answer =>
      rw [became] at asked tests fitting warned
      obtain ⟨language, ofPath, analyzer⟩ := fitting
      rw [Lookup.exchange?, ofPath] at asked
      cases answer with
      | ok named => exact ⟨language, ofPath, analyzer, asked, tests⟩
      | error cause =>
          exact ⟨language, ofPath, analyzer, asked, tests, warned rfl rfl (by decide)⟩

theorem fits_of_shows {impact : Impact} {warnings : List Warning} {asked : List Exchange}
    {lookup : Lookup} (shows : engine.Shows project impact warnings asked file lookup) :
    lookup.Fits engine.registry file ∧
      asked.filter (·.asksFor file) = (lookup.exchange? project file).toList := by
  rcases lookup with type | language | cause | tests
  · exact ⟨⟨shows.1, shows.2.1⟩, shows.2.2.1⟩
  · exact ⟨⟨shows.1, shows.2.1⟩, shows.2.2.1⟩
  · obtain ⟨language, ofPath, analyzer, question, _⟩ := shows
    exact ⟨⟨language, ofPath, analyzer⟩, by rw [question, Lookup.exchange?, ofPath]; rfl⟩
  · obtain ⟨language, ofPath, analyzer, question, _⟩ := shows
    exact ⟨⟨language, ofPath, analyzer⟩, by rw [question, Lookup.exchange?, ofPath]; rfl⟩

/-- What shows of a file shows of one lookup alone. -/
theorem eq_of_shows {impact : Impact} {warnings : List Warning} {asked : List Exchange}
    {first second : Lookup} (one : engine.Shows project impact warnings asked file first)
    (other : engine.Shows project impact warnings asked file second) : first = second := by
  obtain ⟨fitsFirst, askedFirst⟩ := fits_of_shows one
  obtain ⟨fitsSecond, askedSecond⟩ := fits_of_shows other
  exact Lookup.eq_of_fits fitsFirst fitsSecond (askedFirst.symm.trans askedSecond)

end Shown

/-- Every file that a change affects ends up in one of four ways, and it shows in which: its
tests are named in the coverage, its extension is unknown, its language has no analyzer, or
its lookup failed. Each of the last three is the matter of one warning. -/
theorem affected_files_accounted {graph : SymbolGraph} {project : String} (changed : List String)
    (delivered : collaborators said (.graph project) = .ok graph) :
    ∃ impact warnings asked, ∃ found : String → Lookup,
      (engine.buildImpact changed project).converse collaborators said =
        (.ok ⟨impact, warnings⟩, said ++ graphExchange collaborators said project :: asked) ∧
      (∀ file ∈ impact.affected, ∀ lookup,
        engine.Shows project impact warnings asked file lookup ↔ lookup = found file) ∧
      (∀ file ∈ impact.coverage.keys,
        file ∈ impact.affected ∧ ∃ tests, found file = .answered (.ok tests)) ∧
      warnings = impact.affected.filterMap
        (fun file => (found file).warning? impact.affected file) ∧
      asked = impact.affected.filterMap fun file => (found file).exchange? project file := by
  obtain ⟨found, fits, built⟩ :=
    engine.converse_buildImpact_found collaborators said changed delivered
  let reached := impactOf changed ((firstOccurrences changed).map (engine.reachedFrom graph))
  let impact : Impact :=
    { reached with coverage := coverageOf (reached.affected.map fun file => (file, found file)) }
  have distinct : reached.affected.Nodup := nodup_affected_impactOf changed _
  refine ⟨impact, _, _, found, built, fun file member lookup => ?_, fun file covered => ?_,
    rfl, rfl⟩
  · have shown := @shows_found engine project _ _ _ distinct fits member impact rfl
    constructor
    · intro shows
      exact eq_of_shows shows shown
    · rintro rfl
      exact shown
  · obtain ⟨tests, named⟩ := (impact.coverage.mem_keys_iff file).mp covered
    rw [get?_coverageOf_map] at named
    obtain ⟨member, named⟩ := Option.ite_none_right_eq_some.mp named
    refine ⟨member, tests, ?_⟩
    unfold Lookup.tests? at named
    split at named
    · rename_i tests became
      rw [became, Option.some.inj named]
    · cases named

/-- One file with tests, one whose lookup fails, one of no known language, and two of a
language without an analyzer. -/
theorem affected_files_accounted_mixed :
    let engine : Engine := ⟨.ofLanguages [] ["go"], .usual, false, Glob.nestingLimit⟩
    let script : Script :=
      ⟨.ok .empty, [],
        fun file => if file = "b.go" then .error ⟨["no index"]⟩ else .ok ["shop_test.go"],
        fun _ => .ok false⟩
    let collaborators := Collaborators.fixed script.answers
    let changed := ["m.py", "b.go", "notes", "a.go", "n.py", "b.go"]
    let built := (engine.buildImpact changed "/shop").converse collaborators []
    collaborators [] (.graph "/shop") = .ok .empty ∧
      ∃ impact warnings asked, ∃ found : String → Lookup,
        built = (.ok ⟨impact, warnings⟩,
          [] ++ graphExchange collaborators [] "/shop" :: asked) ∧
        (∀ file ∈ impact.affected, ∀ lookup,
          engine.Shows "/shop" impact warnings asked file lookup ↔ lookup = found file) ∧
        (∀ file ∈ impact.coverage.keys,
          file ∈ impact.affected ∧ ∃ tests, found file = .answered (.ok tests)) ∧
        warnings = impact.affected.filterMap
          (fun file => (found file).warning? impact.affected file) ∧
        asked = impact.affected.filterMap fun file => (found file).exchange? "/shop" file :=
  ⟨rfl, affected_files_accounted _ _ _ _ rfl⟩

end Engine

end TestImpact
