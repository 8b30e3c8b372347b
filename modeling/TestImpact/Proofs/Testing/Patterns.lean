import Mathlib.Data.List.Forall2
import TestImpact.Testing.PathFilter

/-!
# What patterns permit

Which paths a run may touch is told by its written patterns: if any include, one of them
has to match, and none that excludes may. A filter that was read from patterns allows just
these paths. Patterns are read in order and then put together, those that include before
those that exclude. What goes wrong first is reported: a pattern that cannot be read, or
that patterns are refused together.
-/

namespace TestImpact

namespace Glob

def Readable (pattern : String) : Prop := ∃ compiled, compile pattern = .ok compiled

def Matches (pattern path : String) : Prop :=
  ∃ compiled, compile pattern = .ok compiled ∧ compiled.containsPath path = true

end Glob

namespace Testing

open Glob (Readable Matches)

def RunConfig.Permits (config : RunConfig) (path : String) : Prop :=
  (config.included ≠ [] → ∃ pattern ∈ config.included, Matches pattern path) ∧
    ∀ pattern ∈ config.excluded, ¬ Matches pattern path

def BadPattern.FirstIn (bad : BadPattern) (patterns : List String) : Prop :=
  ∃ before after, patterns = before ++ bad.pattern :: after ∧
    (∀ pattern ∈ before, Readable pattern) ∧ Glob.compile bad.pattern = .error bad.fault

/-- Patterns that can each be read and are not refused together. -/
structure Usable (limit : Glob.Limit) (patterns : List String) : Prop where
  readable : ∀ pattern ∈ patterns, Readable pattern
  accepted : patterns ≠ [] → limit patterns = none

/-- The patterns of a run can be used, those that include and those that exclude. -/
structure RunConfig.UsablePatterns (config : RunConfig) (limit : Glob.Limit) : Prop where
  included : Usable limit config.included
  excluded : Usable limit config.excluded

/-- What is wrong with patterns: the first of them that cannot be read or, if all of them can
be read, that they are refused together. -/
inductive PatternsFault.In (limit : Glob.Limit) (patterns : List String) :
    PatternsFault → Prop where
  | unreadable {bad : BadPattern} (first : bad.FirstIn patterns) :
      In limit patterns (.unreadable bad)
  | refused {reason : String} (readable : ∀ pattern ∈ patterns, Readable pattern)
      (some : patterns ≠ []) (together : limit patterns = .some reason) :
      In limit patterns (.refused reason)

/-- What is wrong with the patterns of a run. Those that include come first. -/
inductive PatternsFault.FirstOf (fault : PatternsFault) (limit : Glob.Limit)
    (config : RunConfig) : Prop where
  | included (wrong : fault.In limit config.included)
  | excluded (usable : Usable limit config.included) (wrong : fault.In limit config.excluded)

abbrev ReadAs : List String → List Glob.Pattern → Prop :=
  List.Forall₂ fun pattern compiled => Glob.compile pattern = .ok compiled

namespace BadPattern.FirstIn

variable {bad other : BadPattern} {patterns : List String}

theorem cons (first : bad.FirstIn patterns) {pattern : String} (readable : Readable pattern) :
    bad.FirstIn (pattern :: patterns) := by
  obtain ⟨before, after, rfl, readableToo, failed⟩ := first
  exact ⟨pattern :: before, after, rfl, List.forall_mem_cons.mpr ⟨readable, readableToo⟩, failed⟩

theorem not_all_readable (first : bad.FirstIn patterns) :
    ¬ ∀ pattern ∈ patterns, Readable pattern := by
  intro readable
  obtain ⟨before, after, rfl, _, failed⟩ := first
  obtain ⟨compiled, read⟩ := readable _ (List.mem_append_right _ List.mem_cons_self)
  cases failed.symm.trans read

theorem find? (first : bad.FirstIn patterns) :
    patterns.find? (fun pattern => !(Glob.compile pattern).isOk) = some bad.pattern := by
  obtain ⟨before, after, rfl, readable, failed⟩ := first
  rw [List.find?_eq_some_iff_append]
  refine ⟨by rw [failed]; rfl, before, after, rfl, fun pattern member => ?_⟩
  obtain ⟨compiled, read⟩ := readable pattern member
  rw [read]
  rfl

/-- Only one pattern is the first that cannot be read, and it has one fault. -/
theorem unique (first : bad.FirstIn patterns) (again : other.FirstIn patterns) : bad = other := by
  have pattern : bad.pattern = other.pattern :=
    Option.some.inj (first.find?.symm.trans again.find?)
  obtain ⟨_, _, _, _, failed⟩ := first
  obtain ⟨_, _, _, _, failedToo⟩ := again
  rw [pattern] at failed
  have fault : bad.fault = other.fault := Except.error.inj (failed.symm.trans failedToo)
  cases bad
  cases other
  cases pattern
  cases fault
  rfl

end BadPattern.FirstIn

namespace PatternsFault

variable {fault other : PatternsFault} {limit : Glob.Limit}

theorem In.not_usable {patterns : List String} (wrong : fault.In limit patterns) :
    ¬ Usable limit patterns := by
  intro usable
  cases wrong with
  | unreadable first => exact first.not_all_readable usable.readable
  | refused _ some together => cases together.symm.trans (usable.accepted some)

theorem In.unique {patterns : List String} (wrong : fault.In limit patterns)
    (again : other.In limit patterns) : fault = other := by
  cases wrong with
  | unreadable first =>
      cases again with
      | unreadable second => rw [first.unique second]
      | refused readable _ _ => exact absurd readable first.not_all_readable
  | refused readable _ together =>
      cases again with
      | unreadable second => exact absurd readable second.not_all_readable
      | refused _ _ togetherToo => rw [Option.some.inj (together.symm.trans togetherToo)]

variable {config : RunConfig}

theorem FirstOf.not_usable (first : fault.FirstOf limit config) :
    ¬ config.UsablePatterns limit := by
  intro usable
  cases first with
  | included wrong => exact wrong.not_usable usable.included
  | excluded _ wrong => exact wrong.not_usable usable.excluded

theorem FirstOf.unique (first : fault.FirstOf limit config)
    (again : other.FirstOf limit config) : fault = other := by
  cases first with
  | included wrong =>
      cases again with
      | included wrongToo => exact wrong.unique wrongToo
      | excluded usable _ => exact absurd usable wrong.not_usable
  | excluded usable wrong =>
      cases again with
      | included wrongToo => exact absurd usable wrongToo.not_usable
      | excluded _ wrongToo => exact wrong.unique wrongToo

end PatternsFault

namespace ReadAs

variable {patterns : List String} {compiled : List Glob.Pattern}

theorem readable (read : ReadAs patterns compiled) : ∀ pattern ∈ patterns, Readable pattern := by
  induction read with
  | nil => simp
  | cons first rest ih => exact List.forall_mem_cons.mpr ⟨⟨_, first⟩, ih⟩

theorem any_containsPath (read : ReadAs patterns compiled) (path : String) :
    compiled.any (·.containsPath path) = true ↔ ∃ pattern ∈ patterns, Matches pattern path := by
  induction read with
  | nil => simp
  | @cons pattern one patterns rest first read ih =>
      have head : Matches pattern path ↔ one.containsPath path = true := by
        rw [Matches, first]
        simp
      rw [List.any_cons, Bool.or_eq_true, ih, List.exists_mem_cons_iff, head]

theorem isEmpty_eq (read : ReadAs patterns compiled) : compiled.isEmpty = patterns.isEmpty := by
  cases read <;> rfl

end ReadAs

/-- Patterns are read one after the other, up to the first that cannot be. -/
theorem mapM_compilePattern_cases (patterns : List String) :
    (∃ compiled, patterns.mapM compilePattern = .ok compiled ∧ ReadAs patterns compiled) ∨
      ∃ bad, patterns.mapM compilePattern = .error bad ∧ bad.FirstIn patterns := by
  induction patterns with
  | nil => exact Or.inl ⟨[], rfl, .nil⟩
  | cons pattern rest ih =>
      rw [List.mapM_cons, compilePattern]
      cases read : Glob.compile pattern with
      | error fault =>
          exact Or.inr ⟨⟨pattern, fault⟩, rfl, [], rest, rfl, by simp, read⟩
      | ok one =>
          rcases ih with ⟨compiled, later, readAs⟩ | ⟨bad, later, first⟩
          · rw [later]
            exact Or.inl ⟨one :: compiled, rfl, .cons read readAs⟩
          · rw [later]
            exact Or.inr ⟨bad, rfl, first.cons ⟨one, read⟩⟩

/-- Patterns are put together, or something is wrong with them. -/
theorem assemble_cases (limit : Glob.Limit) (patterns : List String) :
    (∃ compiled, assemble limit patterns = .ok compiled ∧ ReadAs patterns compiled ∧
        Usable limit patterns) ∨
      ∃ fault, assemble limit patterns = .error fault ∧ fault.In limit patterns := by
  cases patterns with
  | nil => exact Or.inl ⟨[], rfl, .nil, by simp, fun some => absurd rfl some⟩
  | cons pattern rest =>
      rw [assemble, if_neg (by simp)]
      rcases mapM_compilePattern_cases (pattern :: rest) with
        ⟨compiled, read, readAs⟩ | ⟨bad, failed, first⟩
      · rw [read]
        dsimp only
        cases together : limit (pattern :: rest) with
        | none => exact Or.inl ⟨compiled, rfl, readAs, readAs.readable, fun _ => together⟩
        | some reason =>
            exact Or.inr ⟨.refused reason, rfl,
              .refused readAs.readable (List.cons_ne_nil _ _) together⟩
      · rw [failed]
        exact Or.inr ⟨.unreadable bad, rfl, .unreadable first⟩

namespace PathFilter

theorem allows_iff_permits {config : RunConfig} {filter : PathFilter}
    (included : ReadAs config.included filter.included)
    (excluded : ReadAs config.excluded filter.excluded) (path : String) :
    filter.allows path = true ↔ config.Permits path := by
  rw [allows, Bool.and_eq_true, Bool.or_eq_true, included.isEmpty_eq, included.any_containsPath,
    Bool.not_eq_true', ← Bool.not_eq_true, excluded.any_containsPath, List.isEmpty_iff,
    RunConfig.Permits]
  refine and_congr ⟨fun either some => either.resolve_left some, fun implied => ?_⟩ (by simp)
  exact or_iff_not_imp_left.mpr implied

/-- The patterns of a run make a filter, or what is wrong with them first is reported. -/
theorem ofConfig_cases (limit : Glob.Limit) (config : RunConfig) :
    (∃ filter, ofConfig limit config = .ok filter ∧ config.UsablePatterns limit ∧
        ReadAs config.included filter.included ∧ ReadAs config.excluded filter.excluded) ∨
      ∃ fault, ofConfig limit config = .error fault ∧ fault.FirstOf limit config := by
  rw [ofConfig]
  rcases assemble_cases limit config.included with
    ⟨included, read, readAs, usable⟩ | ⟨fault, failed, wrong⟩
  · rcases assemble_cases limit config.excluded with
      ⟨excluded, readToo, readAsToo, usableToo⟩ | ⟨fault, failed, wrong⟩
    · rw [read, readToo]
      exact Or.inl ⟨⟨included, excluded⟩, rfl, ⟨usable, usableToo⟩, readAs, readAsToo⟩
    · rw [read, failed]
      exact Or.inr ⟨fault, rfl, .excluded usable wrong⟩
  · rw [failed]
    exact Or.inr ⟨fault, rfl, .included wrong⟩

variable {limit : Glob.Limit} {config : RunConfig} {filter : PathFilter}

theorem readAs_of_ofConfig (read : ofConfig limit config = .ok filter) :
    ReadAs config.included filter.included ∧ ReadAs config.excluded filter.excluded := by
  rcases ofConfig_cases limit config with ⟨found, readToo, _, readAs⟩ | ⟨fault, failed, _⟩
  · obtain rfl : found = filter := Except.ok.inj (readToo.symm.trans read)
    exact readAs
  · cases failed.symm.trans read

theorem allows_of_ofConfig (read : ofConfig limit config = .ok filter) (path : String) :
    filter.allows path = true ↔ config.Permits path :=
  allows_iff_permits (readAs_of_ofConfig read).1 (readAs_of_ofConfig read).2 path

theorem usablePatterns_of_ofConfig (read : ofConfig limit config = .ok filter) :
    config.UsablePatterns limit := by
  rcases ofConfig_cases limit config with ⟨_, _, usable, _⟩ | ⟨fault, failed, _⟩
  · exact usable
  · cases failed.symm.trans read

theorem exists_ofConfig_iff :
    (∃ filter, ofConfig limit config = .ok filter) ↔ config.UsablePatterns limit := by
  constructor
  · rintro ⟨filter, read⟩
    exact usablePatterns_of_ofConfig read
  · intro usable
    rcases ofConfig_cases limit config with ⟨filter, read, _⟩ | ⟨fault, _, first⟩
    · exact ⟨filter, read⟩
    · exact absurd usable first.not_usable

theorem ofConfig_eq_error_iff {fault : PatternsFault} :
    ofConfig limit config = .error fault ↔ fault.FirstOf limit config := by
  rcases ofConfig_cases limit config with ⟨filter, read, usable, _⟩ | ⟨found, failed, first⟩
  · rw [read]
    exact iff_of_false (by simp) fun first => first.not_usable usable
  · rw [failed, Except.error.injEq]
    exact ⟨fun same => same ▸ first, first.unique⟩

end PathFilter

end Testing

end TestImpact
