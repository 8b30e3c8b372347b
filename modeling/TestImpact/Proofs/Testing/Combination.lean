import TestImpact.Proofs.Glob.Nesting
import TestImpact.Proofs.Testing.Patterns

/-!
# Patterns in combination

What a filter allows hangs on which patterns there are, not on their order or number. More
patterns that exclude only take paths away, and each takes away its own. Patterns that
include are alternatives, so more of them let more paths through, but for the first one:
where there are none everything is included. All this holds as far as there is a filter:
patterns that make filters apart may still be refused together.
-/

namespace TestImpact.Testing

open Glob (Readable Matches)

namespace RunConfig

def including (config : RunConfig) (patterns : List String) : RunConfig :=
  { config with included := patterns }

def excluding (config : RunConfig) (patterns : List String) : RunConfig :=
  { config with excluded := patterns }

/-- Two runs have the same patterns, in any order and number. -/
structure SamePatterns (config other : RunConfig) : Prop where
  included : ∀ pattern, pattern ∈ config.included ↔ pattern ∈ other.included
  excluded : ∀ pattern, pattern ∈ config.excluded ↔ pattern ∈ other.excluded

/-- Every pattern of a run can be read. -/
structure ReadablePatterns (config : RunConfig) : Prop where
  included : ∀ pattern ∈ config.included, Readable pattern
  excluded : ∀ pattern ∈ config.excluded, Readable pattern

variable {config other : RunConfig} {first second : List String} {path : String}

namespace SamePatterns

variable (same : config.SamePatterns other)

include same

theorem included_eq_nil_iff : config.included = [] ↔ other.included = [] := by
  rw [List.eq_nil_iff_forall_not_mem, List.eq_nil_iff_forall_not_mem]
  exact forall_congr' fun pattern => not_congr (same.included pattern)

theorem permits_iff : config.Permits path ↔ other.Permits path := by
  simp only [Permits, Ne, same.included_eq_nil_iff, same.included, same.excluded]

theorem readable (readable : config.ReadablePatterns) : other.ReadablePatterns where
  included pattern member := readable.included pattern ((same.included pattern).mpr member)
  excluded pattern member := readable.excluded pattern ((same.excluded pattern).mpr member)

end SamePatterns

theorem permits_including_iff (some : first ≠ []) : (config.including first).Permits path ↔
    (∃ pattern ∈ first, Matches pattern path) ∧
      ∀ pattern ∈ config.excluded, ¬ Matches pattern path :=
  and_congr_left' ⟨fun implied => implied some, fun found _ => found⟩

/-- Patterns that include are alternatives, wherever there are some. -/
theorem permits_including_append (some : first ≠ []) (someToo : second ≠ []) :
    (config.including (first ++ second)).Permits path ↔
      (config.including first).Permits path ∨ (config.including second).Permits path := by
  rw [permits_including_iff (List.append_ne_nil_of_left_ne_nil some second),
    permits_including_iff some, permits_including_iff someToo, ← or_and_right]
  refine and_congr_left' ?_
  simp only [List.mem_append, or_and_right, exists_or]

/-- Patterns that include let nothing through that is not let through without them. -/
theorem Permits.including_nil (permits : (config.including first).Permits path) :
    (config.including []).Permits path :=
  ⟨fun some => absurd rfl some, permits.2⟩

/-- Patterns that exclude each take paths away. -/
theorem permits_excluding_append : (config.excluding (first ++ second)).Permits path ↔
    (config.excluding first).Permits path ∧ (config.excluding second).Permits path := by
  simp only [Permits, excluding, List.forall_mem_append]
  exact and_and_left

end RunConfig

namespace PathFilter

variable {limit : Glob.Limit} {config : RunConfig} {filter : PathFilter}

theorem readablePatterns_of_ofConfig (read : ofConfig limit config = .ok filter) :
    config.ReadablePatterns :=
  have usable := usablePatterns_of_ofConfig read
  ⟨usable.included.readable, usable.excluded.readable⟩

theorem isNoop_of_ofConfig (read : ofConfig limit config = .ok filter) :
    filter.isNoop = true ↔ config.included = [] ∧ config.excluded = [] := by
  obtain ⟨included, excluded⟩ := readAs_of_ofConfig read
  rw [isNoop, Bool.and_eq_true, included.isEmpty_eq, excluded.isEmpty_eq, List.isEmpty_iff,
    List.isEmpty_iff]

/-- There is a filter with a property, or the patterns are refused together. -/
def MadeOrRefused (limit : Glob.Limit) (config : RunConfig) (Fits : PathFilter → Prop) : Prop :=
  (∃ filter, ofConfig limit config = .ok filter ∧ Fits filter) ∨
    ∃ reason, ofConfig limit config = .error (.refused reason)

/-- Patterns that can all be read make a filter for the paths that they permit, unless they
are refused together. -/
theorem madeOrRefused (readable : config.ReadablePatterns) :
    MadeOrRefused limit config fun filter =>
      ∀ path, filter.allows path = true ↔ config.Permits path := by
  cases made : ofConfig limit config with
  | ok filter => exact Or.inl ⟨filter, made, allows_of_ofConfig made⟩
  | error fault =>
      rcases ofConfig_eq_error_iff.mp made with wrong | ⟨_, wrong⟩
      · cases wrong with
        | unreadable first => exact absurd readable.included first.not_all_readable
        | refused _ _ _ => exact Or.inr ⟨_, made⟩
      · cases wrong with
        | unreadable first => exact absurd readable.excluded first.not_all_readable
        | refused _ _ _ => exact Or.inr ⟨_, made⟩

theorem MadeOrRefused.mono {Fits Suits : PathFilter → Prop}
    (made : MadeOrRefused limit config Fits) (suits : ∀ filter, Fits filter → Suits filter) :
    MadeOrRefused limit config Suits :=
  made.imp_left fun ⟨filter, read, fits⟩ => ⟨filter, read, suits filter fits⟩

variable {one other : PathFilter} {first second : List String}

theorem ofConfig_same {again : RunConfig} (read : ofConfig limit config = .ok filter)
    (same : config.SamePatterns again) :
    MadeOrRefused limit again fun other => ∀ path, other.allows path = filter.allows path := by
  refine (madeOrRefused (same.readable (readablePatterns_of_ofConfig read))).mono ?_
  intro other permits path
  rw [Bool.eq_iff_iff, permits, allows_of_ofConfig read, same.permits_iff]

theorem ofConfig_including_append (some : first ≠ []) (someToo : second ≠ [])
    (read : ofConfig limit (config.including first) = .ok one)
    (readToo : ofConfig limit (config.including second) = .ok other) :
    MadeOrRefused limit (config.including (first ++ second)) fun both =>
      ∀ path, both.allows path = (one.allows path || other.allows path) := by
  have known := readablePatterns_of_ofConfig read
  have knownToo := readablePatterns_of_ofConfig readToo
  have readable : (config.including (first ++ second)).ReadablePatterns :=
    ⟨List.forall_mem_append.mpr ⟨known.included, knownToo.included⟩, known.excluded⟩
  refine (madeOrRefused readable).mono fun both permits path => ?_
  rw [Bool.eq_iff_iff, Bool.or_eq_true, permits, allows_of_ofConfig read,
    allows_of_ofConfig readToo]
  exact RunConfig.permits_including_append some someToo

/-- No patterns are never refused together, so here there always is a filter. -/
theorem ofConfig_including_nil (read : ofConfig limit (config.including first) = .ok one) :
    ∃ whole, ofConfig limit (config.including []) = .ok whole ∧
      ∀ path, one.allows path = true → whole.allows path = true := by
  have usable : (config.including []).UsablePatterns limit :=
    ⟨⟨by simp [RunConfig.including], fun some => absurd rfl some⟩,
      (usablePatterns_of_ofConfig read).excluded⟩
  obtain ⟨whole, readWhole⟩ := exists_ofConfig_iff.mpr usable
  refine ⟨whole, readWhole, fun path allowed => (allows_of_ofConfig readWhole path).mpr ?_⟩
  exact ((allows_of_ofConfig read path).mp allowed).including_nil

theorem ofConfig_excluding_append (read : ofConfig limit (config.excluding first) = .ok one)
    (readToo : ofConfig limit (config.excluding second) = .ok other) :
    MadeOrRefused limit (config.excluding (first ++ second)) fun both =>
      ∀ path, both.allows path = (one.allows path && other.allows path) := by
  have known := readablePatterns_of_ofConfig read
  have knownToo := readablePatterns_of_ofConfig readToo
  have readable : (config.excluding (first ++ second)).ReadablePatterns :=
    ⟨known.included, List.forall_mem_append.mpr ⟨known.excluded, knownToo.excluded⟩⟩
  refine (madeOrRefused readable).mono fun both permits path => ?_
  rw [Bool.eq_iff_iff, Bool.and_eq_true, permits, allows_of_ofConfig read,
    allows_of_ofConfig readToo]
  exact RunConfig.permits_excluding_append

end PathFilter

open PathFilter

/-- What comes of the patterns of a run, and of other patterns in their place. -/
structure PatternLaws (limit : Glob.Limit) (config : RunConfig) : Prop where
  /-- Patterns make a filter exactly if every one of them can be read and neither list is
  refused as a whole. -/
  ok_iff : (∃ filter, ofConfig limit config = .ok filter) ↔ config.UsablePatterns limit
  /-- Otherwise the error tells what is wrong with the patterns that include or, if nothing
  is, with those that exclude: the first bad pattern or, if there is none, the refusal. -/
  error_iff : ∀ fault, ofConfig limit config = .error fault ↔ fault.FirstOf limit config
  /-- A filter allows the paths that the patterns permit. -/
  allows_iff : ∀ filter, ofConfig limit config = .ok filter →
    ∀ path, filter.allows path = true ↔ config.Permits path
  /-- The order and the number of the patterns do not count. -/
  same : ∀ filter again, ofConfig limit config = .ok filter → config.SamePatterns again →
    MadeOrRefused limit again fun other => ∀ path, other.allows path = filter.allows path
  /-- Patterns that include are alternatives, wherever there are some. -/
  including_append : ∀ first second one other, first ≠ [] → second ≠ [] →
    ofConfig limit (config.including first) = .ok one →
    ofConfig limit (config.including second) = .ok other →
      MadeOrRefused limit (config.including (first ++ second)) fun both =>
        ∀ path, both.allows path = (one.allows path || other.allows path)
  /-- Where there are none, every path is included. -/
  including_nil : ∀ patterns narrowed,
    ofConfig limit (config.including patterns) = .ok narrowed →
      ∃ whole, ofConfig limit (config.including []) = .ok whole ∧
        ∀ path, narrowed.allows path = true → whole.allows path = true
  /-- Patterns that exclude each take paths away. -/
  excluding_append : ∀ first second one other,
    ofConfig limit (config.excluding first) = .ok one →
    ofConfig limit (config.excluding second) = .ok other →
      MadeOrRefused limit (config.excluding (first ++ second)) fun both =>
        ∀ path, both.allows path = (one.allows path && other.allows path)
  /-- A filter does nothing exactly if there are no patterns. -/
  noop_iff : ∀ filter, ofConfig limit config = .ok filter →
    (filter.isNoop = true ↔ config.included = [] ∧ config.excluded = [])
  /-- A filter that does nothing allows every path. -/
  noop_allows : ∀ filter : PathFilter, filter.isNoop = true → ∀ path, filter.allows path = true

/-- The patterns of every run obey the laws, whatever is refused. -/
theorem patterns_combine (limit : Glob.Limit) (config : RunConfig) :
    PatternLaws limit config where
  ok_iff := exists_ofConfig_iff
  error_iff _ := ofConfig_eq_error_iff
  allows_iff _ read := allows_of_ofConfig read
  same _ _ read same := ofConfig_same read same
  including_append _ _ _ _ some someToo read readToo :=
    ofConfig_including_append some someToo read readToo
  including_nil _ _ read := ofConfig_including_nil read
  excluding_append _ _ _ _ read readToo := ofConfig_excluding_append read readToo
  noop_iff _ read := isNoop_of_ofConfig read
  noop_allows _ noop := allows_of_isNoop noop

/-- Two patterns that include, of which the path of a test matches only one, and one that
excludes another path that both match. -/
theorem patterns_combine_shop :
    let limit := Glob.nestingLimit
    let config := (RunConfig.plain "go" "/shop" .all).excluding ["*slow*"]
    let allowed (patterns : List String) (path : String) : Except PatternsFault Bool :=
      (ofConfig limit (config.including patterns)).map (·.allows path)
    allowed ["api/*"] "cart_test.go" = .ok false ∧
      allowed ["*_test.go"] "cart_test.go" = .ok true ∧
      ∃ both, ofConfig limit (config.including ["api/*", "*_test.go"]) = .ok both ∧
        both.allows "cart_test.go" = true ∧ both.allows "api/slow_test.go" = false := by
  intro limit config allowed
  have unlike : allowed ["api/*"] "cart_test.go" = .ok false := by decide +kernel
  have alike : allowed ["*_test.go"] "cart_test.go" = .ok true := by decide +kernel
  have slow : allowed ["api/*"] "api/slow_test.go" = .ok false := by decide +kernel
  have slowToo : allowed ["*_test.go"] "api/slow_test.go" = .ok false := by decide +kernel
  refine ⟨unlike, alike, ?_⟩
  have told {patterns : List String} {path : String} {filter : PathFilter} {verdict : Bool}
      (read : ofConfig limit (config.including patterns) = .ok filter)
      (answer : allowed patterns path = .ok verdict) : filter.allows path = verdict := by
    dsimp only [allowed] at answer
    rw [read] at answer
    exact Except.ok.inj answer
  obtain ⟨one, read⟩ : ∃ one, ofConfig limit (config.including ["api/*"]) = .ok one := ⟨_, rfl⟩
  obtain ⟨other, readToo⟩ : ∃ other,
      ofConfig limit (config.including ["*_test.go"]) = .ok other := ⟨_, rfl⟩
  obtain ⟨whole, readWhole⟩ : ∃ whole,
      ofConfig limit (config.including ["api/*", "*_test.go"]) = .ok whole := ⟨_, rfl⟩
  rcases (patterns_combine limit config).including_append ["api/*"] ["*_test.go"] one other
      (by decide) (by decide) read readToo with ⟨both, readBoth, joined⟩ | ⟨reason, refused⟩
  · refine ⟨both, readBoth, ?_, ?_⟩
    · rw [joined, told readToo alike, Bool.or_true]
    · rw [joined, told read slow, told readToo slowToo, Bool.or_false]
  · cases readWhole.symm.trans refused

/-- A pattern of three hundred braces around one another can be read, and there is no other,
but it is refused, and no pattern is named. -/
theorem readable_but_refused :
    let config := (RunConfig.plain "go" "/shop" .all).including [Glob.braced 300]
    config.ReadablePatterns ∧
      ofConfig Glob.nestingLimit config = .error (.refused "error parsing pattern 0") ∧
      PatternsFault.message (.refused "error parsing pattern 0") =
        "invalid test patterns: error parsing pattern 0" := by
  intro config
  have readable : Readable (Glob.braced 300) := ⟨_, Glob.compile_braced 300⟩
  have readableAll : ∀ pattern ∈ [Glob.braced 300], Readable pattern :=
    List.forall_mem_singleton.mpr readable
  refine ⟨⟨readableAll, fun _ none => absurd none List.not_mem_nil⟩, ?_, rfl⟩
  exact ofConfig_eq_error_iff.mpr (.included (.refused readableAll (List.cons_ne_nil _ _)
    (Glob.nestingLimit_braced (by decide))))

end TestImpact.Testing
