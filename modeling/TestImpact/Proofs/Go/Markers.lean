import TestImpact.Go.Analyzer
import TestImpact.Proofs.Text.Lowering

/-!
# Markers in any letter case

A test with a marker in its text or its name is a smoke test, unless the marker has a
capital sigma whose form depends on what stands around the marker. Further markers never
take a smoke test away.
-/

namespace TestImpact.Go.Analyzer

open Text

def nameOf (test : String) : String := (Path.fileName? test).getD ""

section Readable

variable {disk : Disk Id} {analyzer : Analyzer} {test content : String}

theorem run_isSmoke (readable : (disk.readText (Path.join analyzer.root test)).run = .ok content)
    (markers : List String) :
    (isSmoke disk (analyzer.withMarkers markers) test).run =
      .ok ((analyzer.withMarkers markers).isMarked test content) := by
  have read : (readTest disk (analyzer.withMarkers markers) test).run = .ok content := by
    rw [readTest, Id.run_bind]
    simp [withMarkers, readable]
  rw [isSmoke, Id.run_bind, read]
  rfl

theorem isSmoke_eq_true_iff
    (readable : (disk.readText (Path.join analyzer.root test)).run = .ok content)
    {markers : List String} :
    (isSmoke disk (analyzer.withMarkers markers) test).run = .ok true ↔
      ∃ marker ∈ markers, contains (lowercase content) (lowercase marker) = true ∨
        contains (lowercase (nameOf test)) (lowercase marker) = true := by
  rw [run_isSmoke readable, Except.ok.injEq]
  simp [isMarked, withMarkers, nameOf]

end Readable

def treeOf (content : String) : FileTree :=
  .directory [(.text "a_test.go", .file content.toByteArray)]

theorem readText_treeOf (content root : String) :
    (((treeOf content).disk "/").readText (Path.join root "/a_test.go")).run = .ok content := by
  have located : (treeOf content).locate "/" "/a_test.go" =
      .ok (.file content.toByteArray, [("a_test.go", treeOf content)]) := rfl
  have decoded : String.fromUTF8? content.toByteArray = some content := by
    rw [String.fromUTF8?, dif_pos content.isValidUTF8]
    rfl
  rw [show Path.join root "/a_test.go" = "/a_test.go" from rfl]
  simp only [FileTree.disk, FileTree.readText, located, bind, Except.bind, FileTree.readContent,
    decodeText, decoded]
  rfl

theorem name_without_sigma {marker : String} (sigma : 'Σ' ∈ marker.toList) :
    contains (lowercase (nameOf "/a_test.go")) (lowercase marker) = false := by
  rw [contains, lowercase, lowercase, String.toList_ofList, String.toList_ofList,
    ← Bool.not_eq_true, containsChars_iff]
  rintro ⟨before, after, split⟩
  have within {c : Char} (member : c ∈ lowerFrom [] marker.toList) :
      c ∈ lowerFrom [] (nameOf "/a_test.go").toList := by
    rw [split]
    exact List.mem_append_left after (List.mem_append_right before member)
  rcases sigma_mem_lowerFrom sigma [] with inner | final
  · exact absurd (within inner) (by decide +kernel)
  · exact absurd (within final) (by decide +kernel)

section Heeded

variable {analyzer : Analyzer} {disk : Disk Id} {markers : List String}
  {test content marker : String}

theorem isSmoke_of_standsAlike
    (readable : (disk.readText (Path.join analyzer.root test)).run = .ok content)
    (among : marker ∈ markers) (stands : StandsAlike marker.toList content.toList ∨
      StandsAlike marker.toList (nameOf test).toList) :
    (isSmoke disk (analyzer.withMarkers markers) test).run = .ok true :=
  (isSmoke_eq_true_iff readable).mpr
    ⟨marker, among, stands.imp contains_lowercase_of_standsAlike contains_lowercase_of_standsAlike⟩

theorem isSmoke_mono
    (readable : (disk.readText (Path.join analyzer.root test)).run = .ok content)
    {more : List String} (within : markers ⊆ more)
    (smoke : (isSmoke disk (analyzer.withMarkers markers) test).run = .ok true) :
    (isSmoke disk (analyzer.withMarkers more) test).run = .ok true := by
  obtain ⟨marker, among, found⟩ := (isSmoke_eq_true_iff readable).mp smoke
  exact (isSmoke_eq_true_iff readable).mpr ⟨marker, within among, found⟩

/-- A marker that is heeded in all one-test directories is settled. -/
theorem settled_of_heeded (analyzer : Analyzer)
    (heeded : ∀ text : String, contains text marker = true →
      (isSmoke ((treeOf text).disk "/") (analyzer.withMarkers [marker]) "/a_test.go").run =
        .ok true) : Settled marker.toList := by
  by_cases sigma : 'Σ' ∈ marker.toList
  · rw [← lowered_everywhere_iff]
    intro text stands
    have smoke := heeded (String.ofList text) (by rwa [contains, String.toList_ofList])
    obtain ⟨found, among, inText | inName⟩ := (isSmoke_eq_true_iff (readText_treeOf _ _)).mp smoke
    · rw [List.mem_singleton.mp among, contains, lowercase, lowercase, String.toList_ofList,
        String.toList_ofList, String.toList_ofList] at inText
      exact inText
    · rw [List.mem_singleton.mp among, name_without_sigma sigma] at inName
      cases inName
  · exact settled_of_notMem sigma

end Heeded

/-- Where a marker stands so that its capital sigmas end words there as they do in the
marker, the test is a smoke test, and it stays one with further markers. The markers that
are heeded wherever they stand are the settled ones. -/
theorem markers_heeded (analyzer : Analyzer) :
    (∀ (disk : Disk Id) (markers : List String) (test content : String),
      (disk.readText (Path.join analyzer.root test)).run = .ok content →
        (∀ marker ∈ markers, StandsAlike marker.toList content.toList ∨
            StandsAlike marker.toList (nameOf test).toList →
          (isSmoke disk (analyzer.withMarkers markers) test).run = .ok true) ∧
        ∀ more, markers ⊆ more →
          (isSmoke disk (analyzer.withMarkers markers) test).run = .ok true →
            (isSmoke disk (analyzer.withMarkers more) test).run = .ok true) ∧
    ∀ marker : String, Settled marker.toList ↔
      ∀ (disk : Disk Id) (markers : List String) (test content : String), marker ∈ markers →
        (disk.readText (Path.join analyzer.root test)).run = .ok content →
        contains content marker = true ∨ contains (nameOf test) marker = true →
          (isSmoke disk (analyzer.withMarkers markers) test).run = .ok true := by
  constructor
  · intro disk markers test content readable
    exact ⟨fun marker => isSmoke_of_standsAlike readable, fun more => isSmoke_mono readable⟩
  · intro marker
    constructor
    · intro settled disk markers test content among readable stands
      have alike := stands.imp (standsAlike_of_settled settled) (standsAlike_of_settled settled)
      exact isSmoke_of_standsAlike readable among alike
    · intro everywhere
      refine settled_of_heeded analyzer fun text stands => ?_
      exact everywhere _ [marker] _ text List.mem_cons_self (readText_treeOf _ _) (.inl stands)

/-- A marker that ends a word both alone and in the text, and a marker that stands nowhere. -/
theorem markers_heeded_smoke :
    StandsAlike "ΚΑΠΝΟΣ".toList "func TestΚΑΠΝΟΣ()".toList ∧
      (isSmoke ((treeOf "func TestΚΑΠΝΟΣ()").disk "/") ((ofRoot "/").withMarkers ["slow", "ΚΑΠΝΟΣ"])
        "/a_test.go").run = .ok true := by
  have alike : StandsAlike "ΚΑΠΝΟΣ".toList "func TestΚΑΠΝΟΣ()".toList :=
    ⟨"func Test".toList, "()".toList, rfl, lowerWithin_eq_iff.mp (by decide +kernel)⟩
  obtain ⟨stands, more⟩ := (markers_heeded (ofRoot "/")).1 _ ["ΚΑΠΝΟΣ"] _ _
    (readText_treeOf "func TestΚΑΠΝΟΣ()" "/")
  exact ⟨alike, more ["slow", "ΚΑΠΝΟΣ"] (by simp) (stands _ (by simp) (.inl alike))⟩

def loginTest : String := "package p\n\nfunc TestΚΑΠΝΟΣLogin(t *testing.T) \x7b\x7d\n"

/-- The marker stands in the test, but the test is not taken for a smoke test. -/
theorem marker_overlooked :
    (((treeOf loginTest).disk "/").readText (Path.join "/" "/a_test.go")).run = .ok loginTest ∧
      contains loginTest "ΚΑΠΝΟΣ" = true ∧
      (isSmoke ((treeOf loginTest).disk "/") ((ofRoot "/").withMarkers ["ΚΑΠΝΟΣ"])
        "/a_test.go").run = .ok false := by
  have readable := readText_treeOf loginTest "/"
  have unmarked : ((ofRoot "/").withMarkers ["ΚΑΠΝΟΣ"]).isMarked "/a_test.go" loginTest = false := by
    decide +kernel
  exact ⟨readable, by decide +kernel, by rw [run_isSmoke readable, unmarked]⟩

end TestImpact.Go.Analyzer
