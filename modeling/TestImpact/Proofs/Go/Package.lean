import TestImpact.Proofs.Go.Clauses

/-!
# The package clause of a source

White space and comments may stand before the package clause of a source. Only a line that
begins with a clause is read as one, so a comment to the end of a line never is, and neither
is a clause behind a comment. A comment over several lines may hold such a line, and what the
first one names is taken for the package.
-/

namespace TestImpact.Go

open Text (isBlank isWordChar dropPart? Stops stops_append_cons_iff stops_dropWhile
  append_cons_eq_append_iff)

/-- White space or a comment. -/
inductive Trivia where
  | blank (c : Char) (isBlank : Text.isBlank c = true)
  /-- A comment to the end of its line. -/
  | line (text : List Char) (single : '\n' ∉ text)
  /-- A comment to its closing mark. -/
  | block (text : List Char) (closed : ¬ "*/".toList <:+: text)

namespace Trivia

def written : Trivia → List Char
  | blank c _ => [c]
  | line text _ => '/' :: '/' :: (text ++ ['\n'])
  | block text _ => '/' :: '*' :: (text ++ ['*', '/'])

/-- Whether only blanks stand on the line behind trivia, if only blanks stand before it or
not. -/
def leavesBare (bare : Bool) : Trivia → Bool
  | blank c _ => bare || c = '\n'
  | line _ _ => true
  | block _ _ => false

def named? : Trivia → Option (List Char)
  | block text _ => firstPackage? false text
  | _ => none

end Trivia

def writtenLead (lead : List Trivia) : List Char := lead.flatMap Trivia.written

def opensLine (lead : List Trivia) : Bool := lead.foldl Trivia.leavesBare true

def HidesClause (text : List Char) : Prop :=
  ∃ before space gap name after, (∀ c ∈ space, isBlank c = true) ∧ IsGap gap ∧ IsName name ∧
    text = before ++ '\n' :: (space ++ ("package".toList ++ (gap ++ (name ++ after))))

def clauseText (gap name tail : List Char) : List Char :=
  "package".toList ++ (gap ++ (name ++ tail))

theorem packageClause?_of_blank {c : Char} (blank : isBlank c = true) (rest : List Char) :
    packageClause? (c :: rest) = packageClause? rest := by
  rw [packageClause?, packageClause?, List.dropWhile_cons_of_pos blank]

theorem packageClause?_slash (rest : List Char) : packageClause? ('/' :: rest) = none := rfl

theorem packageClause?_star (rest : List Char) : packageClause? ('*' :: rest) = none := rfl

/-- No clause runs over the end of a comment. -/
theorem packageClause?_append_star (text more : List Char) :
    packageClause? (text ++ '*' :: more) = packageClause? text := by
  apply Option.ext
  intro name
  rw [packageClause?_eq_some_iff, packageClause?_eq_some_iff]
  refine and_congr_right fun named => ?_
  constructor
  · rintro ⟨space, gap, after, blank, isGap, stops, split⟩
    have unmarked : '*' ∉ space ++ ("package".toList ++ (gap ++ name)) := by
      simp only [List.mem_append, not_or]
      exact ⟨fun member => absurd (blank _ member) (by decide), by decide,
        fun member => absurd (isGap.2 _ member) (by decide),
        fun member => absurd (named.2 _ member) (by decide)⟩
    have regrouped : text ++ '*' :: more =
        space ++ ("package".toList ++ (gap ++ name)) ++ after := by
      rw [split]
      simp only [List.append_assoc]
    obtain ⟨rest, rfl, rfl⟩ := (append_cons_eq_append_iff unmarked).mp regrouped
    refine ⟨space, gap, rest, blank, isGap, (stops_append_cons_iff (by decide) _ _).mp stops, ?_⟩
    simp only [List.append_assoc]
  · rintro ⟨space, gap, after, blank, isGap, stops, rfl⟩
    refine ⟨space, gap, after ++ '*' :: more, blank, isGap,
      (stops_append_cons_iff (by decide) _ _).mpr stops, ?_⟩
    simp only [List.append_assoc]

theorem firstPackage?_false_cons (c : Char) (rest : List Char) :
    firstPackage? false (c :: rest) = firstPackage? (c = '\n') rest := rfl

theorem firstPackage?_of_none {c : Char} {rest : List Char}
    (unnamed : packageClause? (c :: rest) = none) (atLineStart : Bool) :
    firstPackage? atLineStart (c :: rest) = firstPackage? (c = '\n') rest := by
  cases atLineStart with
  | false => rfl
  | true => rw [firstPackage?, if_pos rfl, unnamed]

theorem firstPackage?_of_some {text name : List Char} (named : packageClause? text = some name) :
    firstPackage? true text = some name := by
  cases text with
  | nil => cases named
  | cons c rest => rw [firstPackage?, if_pos rfl, named]

/-- Blanks at the start of a line change nothing. -/
theorem firstPackage?_of_blank {c : Char} (blank : isBlank c = true) (rest : List Char) :
    firstPackage? true (c :: rest) = firstPackage? true rest := by
  cases clause : packageClause? rest with
  | some name =>
      rw [firstPackage?_of_some clause,
        firstPackage?_of_some ((packageClause?_of_blank blank rest).trans clause)]
  | none =>
      rw [firstPackage?_of_none ((packageClause?_of_blank blank rest).trans clause)]
      cases rest with
      | nil => rfl
      | cons d rest =>
          rw [firstPackage?_of_none clause, firstPackage?_of_none clause]

/-- In a comment to the end of its line nothing is read. -/
theorem firstPackage?_line {text : List Char} (single : '\n' ∉ text) (rest : List Char) :
    firstPackage? false (text ++ '\n' :: rest) = firstPackage? true rest := by
  induction text with
  | nil => rfl
  | cons c text ih =>
      obtain ⟨differs, later⟩ := not_or.mp (mt List.mem_cons.mpr single)
      rw [List.cons_append, firstPackage?_false_cons, decide_eq_false (Ne.symm differs)]
      exact ih later

/-- A comment is read by itself, and reading goes on behind it. -/
theorem firstPackage?_block (atLineStart : Bool) (text more : List Char) :
    firstPackage? atLineStart (text ++ '*' :: more) =
      (firstPackage? atLineStart text).or (firstPackage? false more) := by
  induction text generalizing atLineStart with
  | nil =>
      rw [List.nil_append, firstPackage?_of_none (packageClause?_star more)]
      rfl
  | cons c text ih =>
      rw [List.cons_append, firstPackage?, firstPackage?, ← List.cons_append,
        packageClause?_append_star, ih]
      cases (if atLineStart = true then packageClause? (c :: text) else none) <;> rfl

/-- Trivia give what a comment names in a line like a clause, and nothing else. -/
theorem firstPackage?_written (item : Trivia) (bare : Bool) (rest : List Char) :
    firstPackage? bare (item.written ++ rest) =
      item.named?.or (firstPackage? (item.leavesBare bare) rest) := by
  cases item with
  | blank c blank =>
      cases bare with
      | false => rfl
      | true => exact firstPackage?_of_blank blank rest
  | line text single =>
      rw [Trivia.written, List.cons_append, firstPackage?_of_none (packageClause?_slash _)]
      rw [List.cons_append, decide_eq_false (by decide), firstPackage?_false_cons,
        decide_eq_false (by decide), List.append_assoc, List.singleton_append]
      exact firstPackage?_line single rest
  | block text closed =>
      rw [Trivia.written, List.cons_append, firstPackage?_of_none (packageClause?_slash _)]
      rw [List.cons_append, decide_eq_false (by decide), firstPackage?_false_cons,
        decide_eq_false (by decide), List.append_assoc, List.cons_append, firstPackage?_block]
      rfl

theorem firstPackage?_writtenLead (lead : List Trivia) (bare : Bool) (rest : List Char) :
    firstPackage? bare (writtenLead lead ++ rest) =
      (lead.findSome? Trivia.named?).or
        (firstPackage? (lead.foldl Trivia.leavesBare bare) rest) := by
  induction lead generalizing bare with
  | nil => rfl
  | cons item lead ih =>
      rw [writtenLead, List.flatMap_cons, List.append_assoc, firstPackage?_written]
      rw [writtenLead] at ih
      rw [ih, List.findSome?_cons, List.foldl_cons]
      cases item.named? <;> rfl

/-- A clause is read off the front of a text that begins like one. -/
theorem exists_packageClause?_eq_some {space gap name : List Char} (after : List Char)
    (blank : ∀ c ∈ space, isBlank c = true) (isGap : IsGap gap) (isName : IsName name) :
    ∃ whole, packageClause? (space ++ ("package".toList ++ (gap ++ (name ++ after)))) =
      some whole := by
  let run := (name ++ after).takeWhile isWordChar
  have named : IsName run := by
    obtain ⟨c, others, rfl⟩ := List.exists_cons_of_ne_nil isName.1
    have first : isWordChar c = true := isName.2 c List.mem_cons_self
    have starts : run = c :: (others ++ after).takeWhile isWordChar :=
      List.takeWhile_cons_of_pos first
    exact ⟨starts ▸ List.cons_ne_nil _ _, fun _ => List.mem_takeWhile_imp⟩
  refine ⟨run, packageClause?_eq_some_iff.mpr ⟨named, space, gap, _, blank, isGap,
    stops_dropWhile isWordChar (name ++ after), ?_⟩⟩
  rw [List.takeWhile_append_dropWhile]

theorem firstPackage?_eq_none_iff (atLineStart : Bool) (text : List Char) :
    firstPackage? atLineStart text = none ↔
      (atLineStart = true → packageClause? text = none) ∧
        ∀ before rest, text = before ++ '\n' :: rest → packageClause? rest = none := by
  induction text generalizing atLineStart with
  | nil => simp [firstPackage?, packageClause?, dropPart?]
  | cons c text ih =>
      have here : firstPackage? atLineStart (c :: text) = none ↔
          (atLineStart = true → packageClause? (c :: text) = none) ∧
            firstPackage? (c = '\n') text = none := by
        cases atLineStart with
        | false => simp [firstPackage?]
        | true => cases clause : packageClause? (c :: text) <;> simp [firstPackage?, clause]
      rw [here, ih, decide_eq_true_eq]
      refine and_congr_right fun _ => ?_
      constructor
      · rintro ⟨first, later⟩ before rest split
        cases before with
        | nil =>
            obtain ⟨same, rfl⟩ := List.cons.inj split
            exact first same
        | cons d before => exact later before rest (List.cons.inj split).2
      · intro all
        exact ⟨fun same => all [] text (same ▸ rfl),
          fun before rest split => all (c :: before) rest (split ▸ rfl)⟩

/-- A comment gives a name exactly if it holds a line like a clause. -/
theorem firstPackage?_eq_none_iff_not_hidesClause (text : List Char) :
    firstPackage? false text = none ↔ ¬ HidesClause text := by
  rw [firstPackage?_eq_none_iff]
  constructor
  · rintro ⟨_, unread⟩ ⟨before, space, gap, name, after, blank, isGap, isName, split⟩
    obtain ⟨whole, read⟩ := exists_packageClause?_eq_some after blank isGap isName
    cases (unread before _ split).symm.trans read
  · intro clear
    refine ⟨fun start => absurd start Bool.false_ne_true, fun before rest split => ?_⟩
    cases clause : packageClause? rest with
    | none => rfl
    | some name =>
        obtain ⟨isName, space, gap, after, blank, isGap, _, same⟩ :=
          packageClause?_eq_some_iff.mp clause
        exact absurd ⟨before, space, gap, name, after, blank, isGap, isName, same ▸ split⟩ clear

theorem findSome?_named?_eq_none_iff (lead : List Trivia) :
    lead.findSome? Trivia.named? = none ↔
      ∀ text closed, .block text closed ∈ lead → ¬ HidesClause text := by
  rw [List.findSome?_eq_none_iff]
  constructor
  · intro unnamed text closed member
    exact (firstPackage?_eq_none_iff_not_hidesClause text).mp (unnamed _ member)
  · intro clear item member
    cases item with
    | blank c blank => rfl
    | line text single => rfl
    | block text closed =>
        exact (firstPackage?_eq_none_iff_not_hidesClause text).mpr (clear text closed member)

theorem packageOf?_writtenLead (lead : List Trivia) (rest : List Char) :
    packageOf? (String.ofList (writtenLead lead ++ rest)) =
      ((lead.findSome? Trivia.named?).or (firstPackage? (opensLine lead) rest)).map
        String.ofList := by
  rw [packageOf?, String.toList_ofList, firstPackage?_writtenLead]
  rfl

theorem firstPackage?_clauseText {gap name tail : List Char} (isGap : IsGap gap)
    (isName : IsName name) (ends : Stops isWordChar tail) :
    firstPackage? true (clauseText gap name tail) = some name :=
  firstPackage?_of_some (packageClause?_eq_some_iff.mpr
    ⟨isName, [], gap, tail, by simp, isGap, ends, rfl⟩)

/-- Behind white space and comments a package clause is read, whatever it names and whatever
follows, exactly if it stands on a line of its own and no comment holds a line, but for its
first, that begins like a clause. -/
theorem package_read_iff (lead : List Trivia) :
    (∀ gap name tail, IsGap gap → IsName name → Stops isWordChar tail →
      packageOf? (String.ofList (writtenLead lead ++ clauseText gap name tail)) =
        some (String.ofList name)) ↔
      opensLine lead = true ∧ ∀ text closed, .block text closed ∈ lead → ¬ HidesClause text := by
  rw [← findSome?_named?_eq_none_iff]
  constructor
  · intro read
    have isName (c : Char) (word : isWordChar c = true) : IsName [c] :=
      ⟨by simp, by simpa using word⟩
    have whole (c : Char) (word : isWordChar c = true) :
        (lead.findSome? Trivia.named?).or
          (firstPackage? (opensLine lead) (clauseText [' '] [c] [])) = some [c] := by
      have named := read [' '] [c] [] isGap_space (isName c word) (by simp [Stops])
      rw [packageOf?_writtenLead] at named
      obtain ⟨found, same, equal⟩ := Option.map_eq_some_iff.mp named
      rw [same, String.ofList_injective equal]
    have first := whole 'p' (by decide)
    have second := whole 'q' (by decide)
    cases hidden : lead.findSome? Trivia.named? with
    | some name =>
        rw [hidden] at first second
        exact absurd (first.symm.trans second) (by decide)
    | none =>
        rw [hidden] at first
        cases opens : opensLine lead with
        | true => exact ⟨rfl, rfl⟩
        | false =>
            rw [opens] at first
            exact absurd first (by decide)
  · rintro ⟨opens, clear⟩ gap name tail isGap isName ends
    rw [packageOf?_writtenLead, opens, clear, firstPackage?_clauseText isGap isName ends]
    rfl

/-- Comments that speak of packages, none of them in a line like a clause. -/
theorem package_read_iff_notes :
    let lead : List Trivia :=
      [.line " package q".toList (by decide), .blank '\n' (by decide),
        .block "package q\n * package-level notes\n ".toList (by decide +kernel),
        .blank '\n' (by decide), .blank '\t' (by decide)]
    (opensLine lead = true ∧ ∀ text closed, .block text closed ∈ lead → ¬ HidesClause text) ∧
      ∀ gap name tail, IsGap gap → IsName name → Stops isWordChar tail →
        packageOf? (String.ofList (writtenLead lead ++ clauseText gap name tail)) =
          some (String.ofList name) := by
  intro lead
  have clear := (findSome?_named?_eq_none_iff lead).mp (by decide +kernel)
  exact ⟨⟨rfl, clear⟩, (package_read_iff lead).mpr ⟨rfl, clear⟩⟩

/-- A comment that holds a package clause, in front of another clause. -/
theorem package_of_comment_read :
    let lead : List Trivia :=
      [.block "\npackage q\n".toList (by decide +kernel), .blank '\n' (by decide)]
    opensLine lead = true ∧ IsGap [' '] ∧ IsName ['p'] ∧ Stops isWordChar ['\n'] ∧
      String.ofList (writtenLead lead ++ clauseText [' '] ['p'] ['\n']) =
        "/*\npackage q\n*/\npackage p\n" ∧
      packageOf? "/*\npackage q\n*/\npackage p\n" = some "q" := by
  refine ⟨rfl, isGap_space, by decide, by simp [Stops]; decide, ?_, ?_⟩
  · decide +kernel
  · decide +kernel

end TestImpact.Go
