import TestImpact.Proofs.Go.Passing

/-!
# The imports of a source

The search for blocks and the search for clauses of one path find in each declaration what it
gives, as long as nothing gets in the way, and on the lines of a block the paths are found in
front of the comments. A comment that closes a bracket or that looks like an import changes
what is found.
-/

namespace TestImpact.Go

open Text (isWordChar isBlank Stops findAll findAll_append findAll_of_some)

variable {rest : List Char}

/-! ## Declarations -/

namespace Declaration

variable {declaration : Declaration}

theorem findAll_importBlock?_written (undisturbed : declaration.Undisturbed)
    (follows : Follows rest) :
    findAll importBlock? 0 (declaration.written ++ rest) =
      declaration.inside?.toList ++ findAll importBlock? 0 rest := by
  cases declaration with
  | single spec remark =>
      have unopened : '(' ∉ "import ".toList ++ spec.written [] := by
        rw [List.mem_append, not_or]
        exact ⟨by decide, spec.not_mem_written (by simp)⟩
      have shape : (single spec remark).written ++ rest =
          "import ".toList ++ spec.written [] ++ writtenRemark remark ++ '\n' :: rest := by
        rw [written_single, spec.written_eq_append]
        simp
      rw [shape]
      exact findAll_importBlock?_remark unopened undisturbed follows
  | block lines =>
      have found : importBlock? ((block lines).written ++ rest) =
          some (writtenInside lines, '\n' :: rest) := by
        refine importBlock?_eq_some_iff.mpr ⟨not_mem_writtenInside undisturbed.1, [' '],
          isGap_space.2, ?_⟩
        simp [written_block]
      have bare : ¬ Holds IsBlockFront '(' ([] ++ ['\n']) := not_holds_of_not_mem (by decide)
      rw [findAll_importBlock?_of_some found]
      exact congrArg _ (findAll_importBlock?_line bare follows)
  | bare remark =>
      rw [written_bare, List.append_assoc, List.singleton_append]
      exact findAll_importBlock?_remark List.not_mem_nil undisturbed follows

theorem findAll_importClause?_written (undisturbed : declaration.Undisturbed)
    (follows : Follows rest) :
    findAll importClause? 0 (declaration.written ++ rest) =
      declaration.singlePath?.toList ++ findAll importClause? 0 rest := by
  cases declaration with
  | single spec remark =>
      have found : importClause? ((single spec remark).written ++ rest) =
          some (spec.path, writtenRemark remark ++ '\n' :: rest) := by
        refine importClause?_eq_some_iff.mpr ⟨spec.filled, spec.plain _ List.mem_cons_self, [' '],
          spec.naming, isGap_space, spec.isNaming, ?_⟩
        simp [written_single, ImportSpec.written]
      rw [findAll_importClause?_of_some found]
      exact congrArg _ (findAll_importClause?_remark List.not_mem_nil undisturbed follows)
  | block lines =>
      have shape : (block lines).written ++ rest =
          "import (".toList ++ (writtenInside lines ++ [')']) ++ '\n' :: rest := by
        simp [written_block]
      rw [shape]
      refine findAll_importClause?_line (fun holds => undisturbed.2 ?_) follows
      have opened : Holds IsClauseFront '"'
          ("import ".toList ++ '(' :: (writtenInside lines ++ [')', '\n'])) := by
        simpa using holds
      have inside := opened.of_append_right (by decide) (by decide)
        fun front isFront => isFront.not_mem (by decide) (by decide)
      exact inside.of_append_left (by decide)
  | bare remark =>
      rw [written_bare, List.append_assoc, List.singleton_append]
      exact findAll_importClause?_remark List.not_mem_nil undisturbed follows

theorem follows_written (declaration : Declaration) (follows : Follows rest) :
    Follows (declaration.written ++ rest) := by
  have clause {more : List Char} (stops : Stops isBlank more) :
      Follows ("import".toList ++ ([' '] ++ more)) :=
    .word (by decide) isAliasChar_of_mem_import isGap_space stops fun _ _ => rfl
  cases declaration with
  | single spec remark =>
      rw [written_single, List.append_assoc, spec.written_eq_append, List.append_assoc,
        ← spec.written_eq_append]
      exact clause (spec.stops_isBlank_written _)
  | block lines =>
      rw [written_block, List.append_assoc]
      exact clause (stops_of_head rfl (by decide))
  | bare remark =>
      rw [written_bare, List.append_assoc, List.singleton_append]
      exact follows.writtenRemark remark

end Declaration

/-! ## Whole sources -/

theorem follows_declarations (declarations : List Declaration) (follows : Follows rest) :
    Follows (declarations.flatMap Declaration.written ++ rest) := by
  induction declarations with
  | nil => exact follows
  | cons first declarations ih =>
      rw [List.flatMap_cons, List.append_assoc]
      exact first.follows_written ih

/-- A search that finds in each declaration what it gives finds what all of them give. -/
theorem findAll_declarations {α : Type} {form : List Char → Option (α × List Char)}
    {give : Declaration → Option α}
    (each : ∀ declaration rest, declaration.Undisturbed → Follows rest →
      findAll form 0 (declaration.written ++ rest) =
        (give declaration).toList ++ findAll form 0 rest)
    {declarations : List Declaration}
    (undisturbed : ∀ declaration ∈ declarations, declaration.Undisturbed)
    (follows : Follows rest) :
    findAll form 0 (declarations.flatMap Declaration.written ++ rest) =
      declarations.filterMap give ++ findAll form 0 rest := by
  induction declarations with
  | nil => rfl
  | cons first declarations ih =>
      obtain ⟨here, later⟩ := List.forall_mem_cons.mp undisturbed
      rw [List.flatMap_cons, List.append_assoc,
        each first _ here (follows_declarations declarations follows), ih later,
        List.filterMap_cons]
      cases give first <;> rfl

namespace Layout

variable (layout : Layout)

def clauseLine : List Char := "package ".toList ++ layout.package

theorem written_eq : layout.written =
    (layout.lead.map Declaration.bare).flatMap Declaration.written ++
      (layout.clauseLine ++ '\n' :: layout.declarations.flatMap Declaration.written) := by
  have lead : (layout.lead.map Declaration.bare).flatMap Declaration.written =
      layout.lead.flatMap fun remark => writtenRemark remark ++ ['\n'] := by
    rw [List.flatMap_map]
    rfl
  rw [lead]
  rfl

theorem follows_clauseLine (rest : List Char) : Follows (layout.clauseLine ++ '\n' :: rest) := by
  have named : Follows ("package".toList ++ ([' '] ++ (layout.package ++ '\n' :: rest))) := by
    refine .word (by decide) (List.all_eq_true.mp (by decide)) isGap_space
      (layout.isName.stops_isBlank _) ?_
    intro after quoted
    obtain ⟨c, others, starts⟩ := List.exists_cons_of_ne_nil layout.isName.1
    rw [starts] at quoted
    obtain ⟨rfl, _⟩ := List.cons.inj quoted
    exact absurd (layout.isName.2 '"' (starts ▸ List.mem_cons_self)) (by decide)
  exact named

theorem not_mem_clauseLine {c : Char} (foreign : isWordChar c = false)
    (plain : c ∉ "package ".toList) (unbroken : c ≠ '\n') : c ∉ layout.clauseLine ++ ['\n'] := by
  have unnamed : c ∉ layout.package := fun member =>
    Bool.false_ne_true (foreign.symm.trans (layout.isName.2 c member))
  have line : layout.clauseLine = "package ".toList ++ layout.package := rfl
  rw [line]
  simp only [List.mem_append, List.mem_singleton, not_or]
  exact ⟨⟨plain, unnamed⟩, unbroken⟩

/-- A search that passes the line of the package clause and lines without imports finds what
the declarations give. -/
theorem findAll_written {α : Type} {form : List Char → Option (α × List Char)}
    {give : Declaration → Option α}
    (each : ∀ declaration rest, declaration.Undisturbed → Follows rest →
      findAll form 0 (declaration.written ++ rest) =
        (give declaration).toList ++ findAll form 0 rest)
    (unnamed : ∀ remark, give (.bare remark) = none)
    (clause : ∀ rest, Follows rest →
      findAll form 0 (layout.clauseLine ++ '\n' :: rest) = findAll form 0 rest)
    (undisturbed : layout.Undisturbed) :
    findAll form 0 layout.written = layout.declarations.filterMap give := by
  have later := findAll_declarations each undisturbed.declarations Follows.nil
  have silent : (layout.lead.map Declaration.bare).filterMap give = [] := by
    simp [unnamed]
  rw [List.append_nil] at later
  rw [written_eq, findAll_declarations each _ (layout.follows_clauseLine _), silent, clause, later]
  · exact List.append_nil _
  · have follows := follows_declarations layout.declarations Follows.nil
    rwa [List.append_nil] at follows
  · intro declaration listed
    obtain ⟨remark, member, rfl⟩ := List.mem_map.mp listed
    exact undisturbed.lead remark member

end Layout

/-! ## Lines of a block -/

theorem lines_append {line : List Char} (single : '\n' ∉ line) (rest : List Char) :
    lines (line ++ '\n' :: rest) = line :: lines rest := by
  induction line with
  | nil => rfl
  | cons c line ih =>
      obtain ⟨differs, later⟩ := not_or.mp (mt List.mem_cons.mpr single)
      rw [List.cons_append, lines, if_neg (Ne.symm differs), ih later]

theorem withoutComment_append {front : List Char} (unslashed : '/' ∉ front) (rest : List Char) :
    withoutComment (front ++ rest) = front ++ withoutComment rest := by
  induction front with
  | nil => rfl
  | cons c front ih =>
      obtain ⟨differs, later⟩ := not_or.mp (mt List.mem_cons.mpr unslashed)
      rw [List.cons_append, withoutComment, ih later, List.cons_append]
      rintro tail rfl
      exact absurd rfl differs

/-- A path without two slashes in a row stays whole. -/
theorem withoutComment_path {path : List Char} (uncommented : ¬ "//".toList <:+: path)
    (rest : List Char) :
    withoutComment (path ++ '"' :: rest) = path ++ '"' :: withoutComment rest := by
  induction path with
  | nil =>
      have unslashed : '/' ∉ ['"'] := by decide
      exact withoutComment_append unslashed rest
  | cons c path ih =>
      have later : ¬ "//".toList <:+: path := fun within =>
        uncommented (within.trans (List.suffix_cons c path).isInfix)
      rw [List.cons_append, withoutComment, ih later, List.cons_append]
      rintro tail rfl starts
      cases path with
      | nil => exact absurd (List.cons.inj starts).1 (by decide)
      | cons d path =>
          obtain ⟨rfl, _⟩ := List.cons.inj starts
          exact uncommented (List.prefix_append ['/', '/'] path).isInfix

theorem not_mem_withoutComment_writtenRemark (remark : Option Remark) :
    '"' ∉ withoutComment (writtenRemark remark) := by
  cases remark with
  | none => exact List.not_mem_nil
  | some remark =>
      have unslashed : '/' ∉ remark.gap := fun member =>
        (remark.narrow _ member).elim (by decide) (by decide)
      rw [writtenRemark, withoutComment_append unslashed, withoutComment, List.append_nil]
      exact fun member => (remark.narrow _ member).elim (by decide) (by decide)

theorem findAll_quotedPath?_append {front : List Char} (unquoted : '"' ∉ front)
    (rest : List Char) :
    findAll quotedPath? 0 (front ++ rest) = findAll quotedPath? 0 rest := by
  apply findAll_append
  intro c part suffix
  left
  apply Option.eq_none_iff_forall_ne_some.mpr
  rintro ⟨path, after⟩ found
  obtain ⟨_, _, split⟩ := quotedPath?_eq_some_iff.mp found
  obtain ⟨rfl, _⟩ := List.cons.inj split
  exact unquoted (suffix.subset List.mem_cons_self)

theorem pathOnLine?_written (line : BlockLine) : pathOnLine? line.written = line.path? := by
  cases line with
  | spec item remark =>
      have unslashed : '/' ∉ '\t' :: item.naming ++ ['"'] := by
        have unnamed : '/' ∉ item.naming := item.not_mem_naming (by decide) (by decide)
        simp [unnamed]
      have unquoted : '"' ∉ '\t' :: item.naming := by
        have unnamed : '"' ∉ item.naming := item.not_mem_naming (by decide) (by decide)
        simp [unnamed]
      have shape : (BlockLine.spec item remark).written =
          ('\t' :: item.naming ++ ['"']) ++ (item.path ++ '"' :: writtenRemark remark) := by
        simp [BlockLine.written, ImportSpec.written]
      have found : quotedPath? ('"' :: (item.path ++ ['"']) ++
          withoutComment (writtenRemark remark)) =
            some (item.path, withoutComment (writtenRemark remark)) :=
        quotedPath?_eq_some_iff.mpr
          ⟨item.filled, item.plain _ List.mem_cons_self, by simp⟩
      rw [pathOnLine?, shape, withoutComment_append unslashed,
        withoutComment_path item.uncommented, List.append_assoc,
        findAll_quotedPath?_append unquoted]
      have stands := findAll_of_some (List.cons_ne_nil _ _) found
      rw [List.cons_append, List.append_assoc] at stands
      exact congrArg List.head? stands
  | bare remark =>
      have silent := findAll_quotedPath?_append (not_mem_withoutComment_writtenRemark remark) []
      rw [List.append_nil] at silent
      exact congrArg List.head? silent

theorem filterMap_pathOnLine?_writtenInside (block : List BlockLine) :
    (lines (writtenInside block)).filterMap pathOnLine? = block.filterMap BlockLine.path? := by
  have opened : lines (writtenInside block) =
      [] :: lines (block.flatMap fun line => line.written ++ ['\n']) :=
    lines_append List.not_mem_nil _
  rw [opened, List.filterMap_cons_none rfl]
  clear opened
  induction block with
  | nil => rfl
  | cons line block ih =>
      rw [List.flatMap_cons, List.append_assoc, List.singleton_append,
        lines_append line.newline_not_mem_written, List.filterMap_cons, List.filterMap_cons,
        pathOnLine?_written, ih]

/-! ## What is read -/

theorem flatMap_filterMap_inside? (declarations : List Declaration) :
    (declarations.filterMap Declaration.inside?).flatMap
        (fun inside => (lines inside).filterMap pathOnLine?) =
      declarations.flatMap Declaration.blockPaths := by
  induction declarations with
  | nil => rfl
  | cons first declarations ih =>
      cases first with
      | single spec remark => exact ih
      | block block =>
          have inside : (Declaration.block block).inside? = some (writtenInside block) := rfl
          rw [List.filterMap_cons_some inside, List.flatMap_cons, List.flatMap_cons, ih,
            filterMap_pathOnLine?_writtenInside]
          rfl
      | bare remark => exact ih

/-- Of a source in its usual layout, with nothing in the way, the paths of the blocks are read
in their order and then the paths of the clauses in theirs, and no more. -/
theorem imports_read (layout : Layout) (undisturbed : layout.Undisturbed) :
    importsOf (String.ofList layout.written) = layout.paths.map String.ofList := by
  have blocks := layout.findAll_written
    (fun _ _ calm follows => Declaration.findAll_importBlock?_written calm follows)
    (fun _ => rfl)
    (fun _ follows => findAll_importBlock?_line
      (not_holds_of_not_mem (layout.not_mem_clauseLine (by decide) (by decide) (by decide)))
      follows) undisturbed
  have alone := layout.findAll_written
    (fun _ _ calm follows => Declaration.findAll_importClause?_written calm follows)
    (fun _ => rfl)
    (fun _ follows => findAll_importClause?_line
      (not_holds_of_not_mem (layout.not_mem_clauseLine (by decide) (by decide) (by decide)))
      follows) undisturbed
  rw [importsOf, String.toList_ofList, blocks, alone, flatMap_filterMap_inside?, Layout.paths]

/-- Without the word of an import no path of one begins. -/
theorem not_holds_of_not_infix {mark : Char} {text : List Char}
    (absent : ¬ "import".toList <:+: text) : ¬ Holds IsClauseFront mark text := by
  rintro ⟨before, front, after, ⟨gap, naming, _, _, rfl⟩, rfl⟩
  refine absent ⟨before, gap ++ naming ++ mark :: after, ?_⟩
  simp only [List.append_assoc]

theorem quiet_of_not_mem {remark : Option Remark}
    (plain : ∀ written ∈ remark, '(' ∉ written.text ∧ '"' ∉ written.text) : Quiet remark :=
  fun written listed =>
    ⟨not_holds_of_not_mem (plain written listed).1, not_holds_of_not_mem (plain written listed).2⟩

def shopLayout : Layout where
  lead := [some ⟨[], " import order matters".toList, by simp, by decide⟩]
  package := "shop".toList
  isName := by decide
  declarations :=
    [.bare none,
      .single ⟨none, "context".toList, by decide, by simp, by decide +kernel⟩
        (some ⟨[' '], " needed everywhere".toList, by simp, by decide⟩),
      .block
        [.spec ⟨none, "fmt".toList, by decide, by simp, by decide +kernel⟩
            (some ⟨[' '], " \"unused\"".toList, by simp, by decide⟩),
          .spec ⟨some (.word "str".toList (by decide)), "strings".toList, by decide,
            by simp, by decide +kernel⟩ none,
          .bare none,
          .bare (some ⟨['\t'], " // for files".toList, by simp, by decide⟩),
          .spec ⟨some .dot, "os".toList, by decide, by simp, by decide +kernel⟩ none],
      .single ⟨some (.word "_".toList (by decide)), "embed".toList, by decide,
        by simp, by decide +kernel⟩ none]

theorem imports_read_shop :
    shopLayout.Undisturbed ∧
      importsOf (String.ofList shopLayout.written) =
        ["fmt", "strings", "os", "context", "embed"] := by
  have undisturbed : shopLayout.Undisturbed := by
    constructor
    · exact List.forall_mem_singleton.mpr (quiet_of_not_mem (by decide))
    · refine List.forall_mem_cons.mpr ⟨quiet_of_not_mem (by decide), List.forall_mem_cons.mpr
        ⟨quiet_of_not_mem (by decide), List.forall_mem_cons.mpr ⟨⟨by decide, ?_⟩,
          List.forall_mem_singleton.mpr (quiet_of_not_mem (by decide))⟩⟩⟩
      exact not_holds_of_not_infix (by decide +kernel)
  have paths : shopLayout.paths.map String.ofList =
      ["fmt", "strings", "os", "context", "embed"] := by decide +kernel
  exact ⟨undisturbed, (imports_read shopLayout undisturbed).trans paths⟩

def bracketLayout : Layout where
  lead := []
  package := ['p']
  isName := by decide
  declarations :=
    [.bare none,
      .block
        [.spec ⟨none, "fmt".toList, by decide, by simp, by decide +kernel⟩
            (some ⟨[' '], " (deprecated)".toList, by simp, by decide⟩),
          .spec ⟨none, "os".toList, by decide, by simp, by decide +kernel⟩ none]]

def remarkLayout : Layout where
  lead := []
  package := ['p']
  isName := by decide
  declarations := [.bare (some ⟨[], " import \"x\"".toList, by simp, by decide⟩)]

/-- A bracket in a comment hides the paths behind it, and an import in a comment is read. -/
theorem imports_misread :
    String.ofList bracketLayout.written =
        "package p\n\nimport (\n\t\"fmt\" // (deprecated)\n\t\"os\"\n)\n" ∧
      bracketLayout.paths.map String.ofList = ["fmt", "os"] ∧
      importsOf (String.ofList bracketLayout.written) = ["fmt"] ∧
      String.ofList remarkLayout.written = "package p\n// import \"x\"\n" ∧
      remarkLayout.paths.map String.ofList = [] ∧
      importsOf (String.ofList remarkLayout.written) = ["x"] := by
  refine ⟨?_, ?_, ?_, ?_, rfl, ?_⟩ <;> decide +kernel

end TestImpact.Go
