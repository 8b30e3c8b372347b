import TestImpact.CommandLine.Run
import TestImpact.Proofs.Text.ByteOrder
import Mathlib.Data.List.Nodup
import Mathlib.Data.List.Sort

/-!
# Which tests a Go source has

The tests of a source are told by the files alone: the file beside it that carries its name
comes first, and the other test files of its package follow in the order of their bytes. In
which order a directory is listed does not matter.
-/

namespace TestImpact

namespace Disk

def HasEntry (disk : Disk Id) (directory : String) (name : EntryName) : Prop :=
  ∃ names, (disk.names directory).run = .ok names ∧ name ∈ names

/-- Disks with the same files, which may list a directory in different orders. -/
structure SameFiles (first second : Disk Id) : Prop where
  readText : ∀ path, first.readText path = second.readText path
  isPresent : ∀ path, first.isPresent path = second.isPresent path
  readRaw : ∀ directory name, first.readRaw directory name = second.readRaw directory name
  hasEntry : ∀ directory name, first.HasEntry directory name ↔ second.HasEntry directory name

end Disk

namespace Go

def ReadsPackage (reading : Id (Except AccessError String)) (package : String) : Prop :=
  ∃ source, reading.run = .ok source ∧ packageOf? source = some package

def Declares (disk : Disk Id) (path package : String) : Prop :=
  ReadsPackage (disk.readText path) package

def EntryDeclares (disk : Disk Id) (directory : String) (name : EntryName) (package : String) :
    Prop :=
  ReadsPackage (disk.readEntry directory name) package

/-- Whether an entry of a directory is a test file of a package or of its external test
package. -/
def TestsPackage (disk : Disk Id) (directory package : String) (name : EntryName) : Prop :=
  disk.HasEntry directory name ∧ Text.endsWith name.shown testEnding = true ∧
    (EntryDeclares disk directory name package ∨
      EntryDeclares disk directory name (package ++ "_test"))

/-- An entry whose name is a text is the source that its path leads to. -/
theorem entryDeclares_text (disk : Disk Id) (directory name package : String) :
    EntryDeclares disk directory (.text name) package ↔
      Declares disk (Path.join directory name) package :=
  Iff.rfl

section SameFiles

variable {first second : Disk Id}

theorem declares_congr (same : first.SameFiles second) (path package : String) :
    Declares first path package ↔ Declares second path package := by
  rw [Declares, Declares, same.readText]

theorem readEntry_congr (same : first.SameFiles second) (directory : String) (name : EntryName) :
    first.readEntry directory name = second.readEntry directory name := by
  cases name with
  | text name => exact same.readText _
  | raw name => exact same.readRaw directory name

theorem testsPackage_congr (same : first.SameFiles second) (directory package : String)
    (name : EntryName) :
    TestsPackage first directory package name ↔ TestsPackage second directory package name := by
  rw [TestsPackage, TestsPackage, same.hasEntry, EntryDeclares, EntryDeclares, EntryDeclares,
    EntryDeclares, readEntry_congr same]

end SameFiles

namespace Analyzer

open Listing (ascending mem_ascending pairwise_ascending)

variable (disk : Disk Id)

theorem packageFrom_eq_some_iff {reading : Id (Except AccessError String)} {package : String} :
    (packageFrom reading).run = some package ↔ ReadsPackage reading package := by
  rw [packageFrom, Id.run_bind, ReadsPackage]
  cases reading.run with
  | ok source => simp
  | error cause => simp

theorem packageAt_eq_some_iff {path package : String} :
    (packageAt disk path).run = some package ↔ Declares disk path package :=
  packageFrom_eq_some_iff

theorem belongs_iff {directory package : String} {name : EntryName} :
    (belongs disk directory package name).run = true ↔
      Text.endsWith name.shown testEnding = true ∧
        (EntryDeclares disk directory name package ∨
          EntryDeclares disk directory name (package ++ "_test")) := by
  rw [belongs, EntryDeclares, EntryDeclares, ← packageFrom_eq_some_iff, ← packageFrom_eq_some_iff]
  split
  · rename_i ends
    rw [and_iff_right ends, Id.run_bind, Id.run_pure, Bool.or_eq_true, decide_eq_true_iff,
      decide_eq_true_iff]
  · rename_i differs
    exact iff_of_false Bool.false_ne_true fun both => differs both.1

theorem run_filterM {α : Type} (keep : α → Id Bool) (list : List α) :
    (list.filterM keep).run = list.filter fun item => (keep item).run := by
  suffices collected : ∀ kept : List α,
      (List.filterAuxM keep list kept).run =
        (list.filter fun item => (keep item).run).reverse ++ kept by
    rw [List.filterM, Id.run_bind, collected []]
    simp
  induction list with
  | nil => exact fun _ => rfl
  | cons first rest ih =>
      intro kept
      rw [List.filterAuxM, Id.run_bind, ih, List.filter_cons]
      cases (keep first).run <;> simp

theorem run_packageTests (project directory package : String) :
    (packageTests disk project directory package).run =
      match (disk.names (Path.join project directory)).run with
      | .error _ => []
      | .ok names => ascending
          ((names.filter fun name =>
            (belongs disk (Path.join project directory) package name).run).map
              fun name => Path.join directory name.shown) := by
  rw [packageTests, Id.run_bind]
  cases (disk.names (Path.join project directory)).run with
  | error cause => rfl
  | ok names =>
      dsimp only
      rw [Id.run_bind, run_filterM, Id.run_pure]

theorem mem_packageTests {project directory package test : String} :
    test ∈ (packageTests disk project directory package).run ↔
      ∃ name, TestsPackage disk (Path.join project directory) package name ∧
        test = Path.join directory name.shown := by
  rw [run_packageTests]
  simp only [TestsPackage, Disk.HasEntry]
  cases (disk.names (Path.join project directory)).run with
  | error cause => simp
  | ok names =>
      simp only [mem_ascending, List.mem_map, List.mem_filter, belongs_iff, Except.ok.injEq,
        exists_eq_left', and_assoc]
      exact exists_congr fun name => by rw [eq_comm (a := test)]

theorem pairwise_packageTests (project directory package : String) :
    (packageTests disk project directory package).run.Pairwise (· < ·) := by
  rw [run_packageTests]
  split
  · exact List.Pairwise.nil
  · exact pairwise_ascending _

def besideOf (project file : String) : List String :=
  if (disk.isPresent (Path.join project (siblingOf file))).run then [siblingOf file] else []

theorem mem_besideOf {project file test : String} :
    test ∈ besideOf disk project file ↔
      (disk.isPresent (Path.join project (siblingOf file))).run = true ∧ test = siblingOf file := by
  rw [besideOf]
  split <;> simp_all

def othersOf (project file : String) : List String :=
  match (packageAt disk (Path.join project file)).run with
  | none => []
  | some package =>
      (packageTests disk project ((Path.parent? file).getD "") package).run.filter
        (· ∉ besideOf disk project file)

theorem run_testsOf {project file : String} (isGo : Path.extension? file = some "go") :
    (testsOf disk project file).run = besideOf disk project file ++ othersOf disk project file := by
  rw [testsOf, if_pos isGo, Id.run_bind, Id.run_bind, othersOf]
  cases (packageAt disk (Path.join project file)).run with
  | none => exact (List.append_nil _).symm
  | some package => rfl

theorem run_testsOf_of_ne {project file : String} (differs : Path.extension? file ≠ some "go") :
    (testsOf disk project file).run = [] := by
  rw [testsOf, if_neg differs]
  rfl

theorem mem_othersOf {project file test : String} :
    test ∈ othersOf disk project file ↔
      (∃ package name, Declares disk (Path.join project file) package ∧
        TestsPackage disk (Path.join project ((Path.parent? file).getD "")) package name ∧
        test = Path.join ((Path.parent? file).getD "") name.shown) ∧
      test ∉ besideOf disk project file := by
  simp only [← packageAt_eq_some_iff, othersOf]
  cases (packageAt disk (Path.join project file)).run with
  | none => simp
  | some package => simp [mem_packageTests]

theorem pairwise_othersOf (project file : String) :
    (othersOf disk project file).Pairwise (· < ·) := by
  rw [othersOf]
  split
  · exact List.Pairwise.nil
  · exact (pairwise_packageTests disk _ _ _).filter _

theorem nodup_testsOf (project file : String) : (testsOf disk project file).run.Nodup := by
  by_cases isGo : Path.extension? file = some "go"
  · rw [run_testsOf disk isGo, List.nodup_append]
    refine ⟨?_, ?_, ?_⟩
    · rw [besideOf]
      split <;> simp
    · exact (pairwise_othersOf disk project file).imp String.ne_of_lt
    · rintro test beside _ other rfl
      exact ((mem_othersOf disk).mp other).2 beside
  · rw [run_testsOf_of_ne disk isGo]
    exact List.nodup_nil

variable {disk}

theorem besideOf_congr {second : Disk Id} (same : disk.SameFiles second) (project file : String) :
    besideOf disk project file = besideOf second project file := by
  rw [besideOf, besideOf, same.isPresent]

/-- Ascending lists with the same members are the same, so the order of a listing is lost. -/
theorem run_testsOf_congr {second : Disk Id} (same : disk.SameFiles second)
    (project file : String) :
    (testsOf disk project file).run = (testsOf second project file).run := by
  by_cases isGo : Path.extension? file = some "go"
  · have others : othersOf disk project file = othersOf second project file := by
      apply (pairwise_othersOf disk project file).eq_of_mem_iff (pairwise_othersOf second _ _)
      intro test
      simp only [mem_othersOf, declares_congr same, testsPackage_congr same, besideOf_congr same]
    rw [run_testsOf disk isGo, run_testsOf second isGo, besideOf_congr same, others]
  · rw [run_testsOf_of_ne disk isGo, run_testsOf_of_ne second isGo]

end Analyzer

end Go

namespace Path

/-- A path with an extension names a file, so it has a stem, and it leads through a
directory. -/
theorem exists_of_extension? {path extension : String} (named : extension? path = some extension) :
    ∃ parent stem, parent? path = some parent ∧ stem? path = some stem := by
  rw [extension?, fileName?] at named
  rw [parent?, stem?, fileName?]
  cases last : lastPiece? path.toList with
  | none =>
      rw [last] at named
      cases named
  | some found =>
      obtain ⟨piece, before⟩ := found
      rw [last] at named
      by_cases back : piece = ['.', '.']
      · simp only [if_pos back] at named
        cases named
      · exact ⟨_, _, rfl, congrArg (Option.map _) (if_neg back)⟩

end Path

namespace CommandLine

open Go (Declares TestsPackage)

theorem run_answers_findTests (disk : Disk Id) (analyzer : Go.Analyzer) (snapshot : SnapshotFile)
    (language file project : String) :
    (answers disk analyzer snapshot (.findTests language file project)).run =
      .ok (Go.Analyzer.testsOf disk project file).run := rfl

/-- The lookup of tests always succeeds. For a source it gives the test file beside it, if
there is one, and then the other test files of its package in the order of their bytes; for
any other file it gives nothing. Disks with the same files are answered alike. -/
theorem found_tests_exact (disk : Disk Id) (analyzer : Go.Analyzer) (snapshot : SnapshotFile)
    (language file project : String) :
    ∃ tests, (answers disk analyzer snapshot (.findTests language file project)).run = .ok tests ∧
      tests.Nodup ∧
      (Path.extension? file ≠ some "go" → tests = []) ∧
      (Path.extension? file = some "go" →
        ∃ parent stem, Path.parent? file = some parent ∧ Path.stem? file = some stem ∧
          let sibling := Path.join parent (stem ++ "_test.go")
          let present := (disk.isPresent (Path.join project sibling)).run
          ∃ others, tests = (if present then [sibling] else []) ++ others ∧
            others.Pairwise (fun first second => Text.bytes first < Text.bytes second) ∧
            ∀ test, test ∈ others ↔
              (∃ package name, Declares disk (Path.join project file) package ∧
                TestsPackage disk (Path.join project parent) package name ∧
                test = Path.join parent name.shown) ∧
              ¬ (present = true ∧ test = sibling)) ∧
      ∀ second, disk.SameFiles second →
        (answers second analyzer snapshot (.findTests language file project)).run = .ok tests := by
  refine ⟨_, run_answers_findTests disk _ _ _ _ _, Go.Analyzer.nodup_testsOf disk project file,
    Go.Analyzer.run_testsOf_of_ne disk, fun isGo => ?_, fun second same => ?_⟩
  · obtain ⟨parent, stem, leads, names⟩ := Path.exists_of_extension? isGo
    have beside : Go.Analyzer.siblingOf file = Path.join parent (stem ++ "_test.go") := by
      rw [Go.Analyzer.siblingOf, leads, names]
      rfl
    refine ⟨parent, stem, leads, names, Go.Analyzer.othersOf disk project file, ?_, ?_, ?_⟩
    · rw [Go.Analyzer.run_testsOf disk isGo, Go.Analyzer.besideOf, beside]
    · exact (Go.Analyzer.pairwise_othersOf disk project file).imp Text.bytes_lt_bytes
    · intro test
      rw [Go.Analyzer.mem_othersOf, Go.Analyzer.mem_besideOf, leads, beside, Option.getD_some]
  · rw [run_answers_findTests, Go.Analyzer.run_testsOf_congr same]

/-- A directory with tests of a package, of another package, and two entries that cannot be
read as texts. -/
def cartTree : FileTree :=
  .directory [(.text "cart", .directory
    [(.text "z_test.go", .file "package cart\n".toUTF8),
      (.text "cart_test.go", .directory []),
      (.text "cart.go", .file "package cart\n".toUTF8),
      (.text "a_test.go", .file "package cart_test\n".toUTF8),
      (.text "b_test.go", .file "package other\n".toUTF8),
      (.text "c_test.go", .file ⟨#[255]⟩)])]

theorem found_tests_exact_cart :
    ∃ tests, (answers (cartTree.disk "/") (.ofRoot "/") ⟨none⟩
        (.findTests "go" "cart/cart.go" "/")).run = .ok tests ∧ tests.Nodup ∧
      tests = ["cart/cart_test.go", "cart/a_test.go", "cart/z_test.go"] := by
  obtain ⟨tests, answered, distinct, _⟩ :=
    found_tests_exact (cartTree.disk "/") (.ofRoot "/") ⟨none⟩ "go" "cart/cart.go" "/"
  have computed : (Go.Analyzer.testsOf (cartTree.disk "/") "/" "cart/cart.go").run =
      ["cart/cart_test.go", "cart/a_test.go", "cart/z_test.go"] := by decide +kernel
  refine ⟨tests, answered, distinct, ?_⟩
  rw [run_answers_findTests, computed] at answered
  exact (Except.ok.inj answered).symm

end CommandLine

end TestImpact
