import TestImpact.Proofs.Go.Clauses

/-!
# Sources in their usual layout

A source names its package on one line and goes on with its imports: clauses of one path,
each on a line, and blocks with one path on a line. Lines may be empty, and a comment may
stand at the end of a line. Import clauses and blocks are searched for in the whole source,
so a comment can get in the way of them, and so can a path of a block.
-/

namespace TestImpact.Go

open Text (isBlank Stops append_cons_eq_append_iff)

/-- A comment at the end of a line. -/
structure Remark where
  gap : List Char
  text : List Char
  narrow : ∀ c ∈ gap, c = ' ' ∨ c = '\t'
  single : '\n' ∉ text

/-- The name given to an import. -/
inductive GivenName where
  /-- Everything is imported without a name in front. -/
  | dot
  | word (text : List Char) (isName : IsName text)

/-- A path to import, with the name given to it. -/
structure ImportSpec where
  name : Option GivenName
  path : List Char
  filled : path ≠ []
  plain : ∀ c ∈ ['"', '(', ')', '\n'], c ∉ path
  uncommented : ¬ "//".toList <:+: path

/-- A line of an import block. -/
inductive BlockLine where
  | spec (item : ImportSpec) (remark : Option Remark)
  /-- An empty line, or one with a comment alone. -/
  | bare (remark : Option Remark)

/-- What stands on the lines behind the package clause. -/
inductive Declaration where
  | single (spec : ImportSpec) (remark : Option Remark)
  | block (lines : List BlockLine)
  /-- An empty line, or one with a comment alone. -/
  | bare (remark : Option Remark)

/-- A package clause with imports behind it. -/
structure Layout where
  /-- The lines before the package clause, empty or with a comment. -/
  lead : List (Option Remark)
  package : List Char
  isName : IsName package
  declarations : List Declaration

/-! ## Written forms -/

def writtenRemark : Option Remark → List Char
  | none => []
  | some remark => remark.gap ++ '/' :: '/' :: remark.text

theorem Remark.isBlank_of_mem_gap (remark : Remark) : ∀ c ∈ remark.gap, isBlank c = true := by
  intro c member
  rcases remark.narrow c member with rfl | rfl <;> decide

def GivenName.written : GivenName → List Char
  | dot => ['.']
  | word text _ => text

theorem GivenName.isAliasChar_of_mem_written (name : GivenName) :
    ∀ c ∈ name.written, isAliasChar c = true := by
  cases name with
  | dot => exact List.forall_mem_singleton.mpr (by decide)
  | word text isName =>
      intro c member
      rw [isAliasChar, isName.2 c member, Bool.true_or]

theorem GivenName.written_ne_nil (name : GivenName) : name.written ≠ [] := by
  cases name with
  | dot => simp [written]
  | word text isName => exact isName.1

namespace ImportSpec

def naming (spec : ImportSpec) : List Char :=
  match spec.name with
  | none => []
  | some name => name.written ++ [' ']

def written (spec : ImportSpec) (after : List Char) : List Char :=
  spec.naming ++ '"' :: (spec.path ++ '"' :: after)

variable (spec : ImportSpec)

theorem isNaming : IsNaming spec.naming := by
  rw [naming]
  cases spec.name with
  | none => exact .inl rfl
  | some name =>
      exact .inr ⟨name.written, [' '], name.written_ne_nil, name.isAliasChar_of_mem_written,
        isGap_space, rfl⟩

theorem stops_isBlank_written (after : List Char) : Stops isBlank (spec.written after) :=
  spec.isNaming.stops_isBlank _

theorem written_eq_append (after : List Char) : spec.written after = spec.written [] ++ after := by
  simp [written]

theorem not_mem_naming {c : Char} (foreign : isAliasChar c = false) (visible : c ≠ ' ') :
    c ∉ spec.naming := by
  rw [naming]
  cases spec.name with
  | none => exact List.not_mem_nil
  | some name =>
      rw [List.mem_append, List.mem_singleton, not_or]
      exact ⟨fun member => Bool.false_ne_true
        (foreign.symm.trans (name.isAliasChar_of_mem_written c member)), visible⟩

/-- No bracket and no line break stands in an import. -/
theorem not_mem_written {c : Char} (outside : c ∈ ['(', ')', '\n']) : c ∉ spec.written [] := by
  have plain : c ∉ spec.path := spec.plain c (List.mem_cons_of_mem _ outside)
  have apart : c ∉ spec.naming ∧ c ≠ '"' := by
    simp only [List.mem_cons, List.not_mem_nil, or_false] at outside
    rcases outside with rfl | rfl | rfl <;>
      exact ⟨spec.not_mem_naming (by decide) (by decide), by decide⟩
  simp [written, plain, apart]

end ImportSpec

namespace BlockLine

def remark : BlockLine → Option Remark
  | spec _ remark => remark
  | bare remark => remark

def written : BlockLine → List Char
  | spec item remark => '\t' :: item.written (writtenRemark remark)
  | bare remark => writtenRemark remark

def path? : BlockLine → Option (List Char)
  | spec item _ => some item.path
  | bare _ => none

/-- What stands on a line of a block besides its comment. -/
theorem not_mem_written {c : Char} (outside : c ∈ [')', '\n']) {line : BlockLine}
    (clear : c ∉ writtenRemark line.remark) : c ∉ line.written := by
  cases line with
  | spec item remark =>
      have differs : c ≠ '\t' := by
        rintro rfl
        exact absurd outside (by decide)
      have plain : c ∉ item.written [] := item.not_mem_written (List.mem_cons_of_mem _ outside)
      rw [written, item.written_eq_append, List.mem_cons, List.mem_append]
      exact not_or.mpr ⟨differs, not_or.mpr ⟨plain, clear⟩⟩
  | bare remark => exact clear

theorem newline_not_mem_written (line : BlockLine) : '\n' ∉ line.written := by
  refine not_mem_written (by simp) ?_
  cases line.remark with
  | none => exact List.not_mem_nil
  | some remark =>
      have narrow : '\n' ∉ remark.gap := fun member =>
        (remark.narrow _ member).elim (by decide) (by decide)
      simp [writtenRemark, narrow, remark.single]

end BlockLine

def writtenInside (lines : List BlockLine) : List Char :=
  '\n' :: lines.flatMap fun line => line.written ++ ['\n']

theorem not_mem_writtenInside {lines : List BlockLine}
    (clear : ∀ line ∈ lines, ')' ∉ writtenRemark line.remark) : ')' ∉ writtenInside lines := by
  rw [writtenInside, List.mem_cons, List.mem_flatMap, not_or]
  refine ⟨by decide, ?_⟩
  rintro ⟨line, listed, member⟩
  rcases List.mem_append.mp member with within | last
  · exact BlockLine.not_mem_written (by simp) (clear line listed) within
  · exact absurd last (by decide)

namespace Declaration

def written : Declaration → List Char
  | single spec remark => "import ".toList ++ spec.written (writtenRemark remark ++ ['\n'])
  | block lines => "import (".toList ++ (writtenInside lines ++ [')', '\n'])
  | bare remark => writtenRemark remark ++ ['\n']

theorem written_single (spec : ImportSpec) (remark : Option Remark) :
    (single spec remark).written =
      "import ".toList ++ spec.written (writtenRemark remark ++ ['\n']) := rfl

theorem written_block (lines : List BlockLine) :
    (block lines).written = "import (".toList ++ (writtenInside lines ++ [')', '\n']) := rfl

theorem written_bare (remark : Option Remark) :
    (bare remark).written = writtenRemark remark ++ ['\n'] := rfl

def inside? : Declaration → Option (List Char)
  | block lines => some (writtenInside lines)
  | _ => none

def blockPaths : Declaration → List (List Char)
  | block lines => lines.filterMap BlockLine.path?
  | _ => []

def singlePath? : Declaration → Option (List Char)
  | single spec _ => some spec.path
  | _ => none

end Declaration

namespace Layout

def written (layout : Layout) : List Char :=
  (layout.lead.flatMap fun remark => writtenRemark remark ++ ['\n']) ++
    ("package ".toList ++ (layout.package ++ '\n' :: layout.declarations.flatMap
      Declaration.written))

/-- The paths that are imported: those in blocks, and then those in clauses of one path. -/
def paths (layout : Layout) : List (List Char) :=
  layout.declarations.flatMap Declaration.blockPaths ++
    layout.declarations.filterMap Declaration.singlePath?

end Layout

/-! ## What gets in the way -/

def Holds (Front : List Char → Prop) (mark : Char) (text : List Char) : Prop :=
  ∃ before front after, Front front ∧ text = before ++ (front ++ mark :: after)

def IsBlockFront (front : List Char) : Prop :=
  ∃ gap, (∀ c ∈ gap, isBlank c = true) ∧ front = "import".toList ++ gap

def IsClauseFront (front : List Char) : Prop :=
  ∃ gap naming, IsGap gap ∧ IsNaming naming ∧ front = "import".toList ++ (gap ++ naming)

theorem isAliasChar_of_mem_import : ∀ c ∈ "import".toList, isAliasChar c = true :=
  List.all_eq_true.mp (by decide)

theorem IsNaming.isBlank_or_isAliasChar {naming : List Char} (isNaming : IsNaming naming) :
    ∀ c ∈ naming, isBlank c = true ∨ isAliasChar c = true := by
  rcases isNaming with rfl | ⟨name, gap, _, word, isGap, rfl⟩
  · simp
  · exact List.forall_mem_append.mpr ⟨fun c member => .inr (word c member),
      fun c member => .inl (isGap.2 c member)⟩

section Foreign

variable {c : Char} (solid : isBlank c = false) (foreign : isAliasChar c = false)

include solid foreign

theorem IsBlockFront.not_mem {front : List Char} (isFront : IsBlockFront front) : c ∉ front := by
  obtain ⟨gap, blank, rfl⟩ := isFront
  rw [List.mem_append, not_or]
  exact ⟨fun member => Bool.false_ne_true (foreign.symm.trans (isAliasChar_of_mem_import c member)),
    fun member => Bool.false_ne_true (solid.symm.trans (blank c member))⟩

theorem IsClauseFront.not_mem {front : List Char} (isFront : IsClauseFront front) :
    c ∉ front := by
  obtain ⟨gap, naming, isGap, isNaming, rfl⟩ := isFront
  rw [← List.append_assoc, List.mem_append, not_or]
  refine ⟨IsBlockFront.not_mem solid foreign ⟨gap, isGap.2, rfl⟩, fun member => ?_⟩
  rcases isNaming.isBlank_or_isAliasChar c member with blank | word
  · exact Bool.false_ne_true (solid.symm.trans blank)
  · exact Bool.false_ne_true (foreign.symm.trans word)

end Foreign

section Marks

variable {Front : List Char → Prop} {mark c : Char} {text more : List Char}

theorem not_holds_of_not_mem (absent : mark ∉ text) : ¬ Holds Front mark text := by
  rintro ⟨before, front, after, _, rfl⟩
  simp at absent

theorem Holds.of_append_left (holds : Holds Front mark (text ++ more)) (absent : mark ∉ more) :
    Holds Front mark text := by
  obtain ⟨before, front, after, isFront, split⟩ := holds
  rw [← List.append_assoc] at split
  rcases List.append_eq_append_iff.mp split with ⟨rest, _, rfl⟩ | ⟨rest, rfl, same⟩
  · simp at absent
  · cases rest with
    | nil =>
        obtain rfl : mark :: after = more := same
        exact absurd List.mem_cons_self absent
    | cons d rest =>
        obtain ⟨rfl, _⟩ := List.cons.inj same
        exact ⟨before, front, rest, isFront, by simp⟩

/-- A character that stands in no front keeps a mark behind it from the text before it. -/
theorem Holds.of_append_right (holds : Holds Front mark (text ++ c :: more))
    (absent : mark ∉ text) (differs : mark ≠ c) (foreign : ∀ front, Front front → c ∉ front) :
    Holds Front mark more := by
  obtain ⟨before, front, after, isFront, split⟩ := holds
  have apart {rest : List Char} (same : c :: more = rest ++ mark :: after)
      (within : rest <:+ front) : False := by
    cases rest with
    | nil => exact differs (List.cons.inj same).1.symm
    | cons d rest =>
        obtain ⟨rfl, _⟩ := List.cons.inj same
        exact foreign front isFront (within.subset List.mem_cons_self)
  rcases List.append_eq_append_iff.mp split with ⟨rest, rfl, same⟩ | ⟨rest, rfl, same⟩
  · cases rest with
    | nil => exact (apart same List.suffix_rfl).elim
    | cons d rest => exact ⟨rest, front, after, isFront, (List.cons.inj same).2⟩
  · have unmarked : mark ∉ rest := fun member => absent (List.mem_append_right before member)
    obtain ⟨last, rfl, behind⟩ := (append_cons_eq_append_iff unmarked).mp same
    exact (apart behind (List.suffix_append _ _)).elim

/-- What begins in a part that holds no mark behind a front ends behind the part. -/
theorem exists_behind_of_not_holds {chunk part front rest tail : List Char}
    (quiet : ¬ Holds Front mark chunk) (suffix : part <:+ chunk) (isFront : Front front)
    (split : part ++ rest = front ++ mark :: tail) :
    ∃ behind, front = part ++ behind ∧ rest = behind ++ mark :: tail := by
  rcases List.append_eq_append_iff.mp split with found | ⟨behind, rfl, same⟩
  · exact found
  · cases behind with
    | nil => exact ⟨[], by simp, same.symm⟩
    | cons d behind =>
        obtain ⟨rfl, _⟩ := List.cons.inj same
        obtain ⟨before, rfl⟩ := suffix
        exact absurd ⟨before, front, behind, isFront, rfl⟩ quiet

end Marks

/-- A line holds no mark behind a front if its comment holds none and no mark stands before
the comment. -/
theorem not_holds_writtenRemark {Front : List Char → Prop} {mark : Char} {front : List Char}
    {remark : Option Remark} (absent : mark ∉ front) (visible : mark ∉ [' ', '\t', '/', '\n'])
    (foreign : ∀ front, Front front → '/' ∉ front)
    (quiet : ∀ written ∈ remark, ¬ Holds Front mark written.text) :
    ¬ Holds Front mark (front ++ writtenRemark remark ++ ['\n']) := by
  simp only [List.mem_cons, List.not_mem_nil, or_false, not_or] at visible
  obtain ⟨notSpace, notTab, notSlash, notBreak⟩ := visible
  intro holds
  have within := holds.of_append_left (by simpa using notBreak)
  cases remark with
  | none =>
      rw [writtenRemark, List.append_nil] at within
      exact not_holds_of_not_mem absent within
  | some written =>
      have narrow : mark ∉ front ++ written.gap := by
        rw [List.mem_append, not_or]
        exact ⟨absent, fun member => (written.narrow mark member).elim notSpace notTab⟩
      rw [writtenRemark, ← List.append_assoc] at within
      have behind := within.of_append_right narrow notSlash foreign
      exact quiet written rfl (behind.of_append_right List.not_mem_nil notSlash foreign)

/-- Comments in which no import block begins, and no path of an import clause. -/
def Quiet (remark : Option Remark) : Prop :=
  ∀ written ∈ remark, ¬ Holds IsBlockFront '(' written.text ∧
    ¬ Holds IsClauseFront '"' written.text

/-- Nothing gets in the way of a declaration. In a block no comment closes the bracket, and no
quotation mark stands where the path of an import clause begins. -/
def Declaration.Undisturbed : Declaration → Prop
  | single _ remark => Quiet remark
  | block lines => (∀ line ∈ lines, ')' ∉ writtenRemark line.remark) ∧
      ¬ Holds IsClauseFront '"' (writtenInside lines)
  | bare remark => Quiet remark

/-- Nothing gets in the way of the imports of a source. -/
structure Layout.Undisturbed (layout : Layout) : Prop where
  lead : ∀ remark ∈ layout.lead, Quiet remark
  declarations : ∀ declaration ∈ layout.declarations, declaration.Undisturbed

end TestImpact.Go
