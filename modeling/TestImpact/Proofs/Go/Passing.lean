import TestImpact.Proofs.Go.Layout

/-!
# Lines in which nothing is found

A search goes through a source line by line. From a line that holds no beginning of an import
nothing is found that begins in it and ends on another, but for a word at its end that makes
the clause on a later line look like a clause with a name. What is found then is that clause
all the same.
-/

namespace TestImpact.Go

open Text (isBlank Stops span_eq_iff findAll findAll_append findAll_of_some)

/-! ## What stands on the next lines -/

/-- What may stand behind a line: behind blanks there is no bracket, and a quotation mark only
behind the word of an import clause. -/
structure Follows (rest : List Char) : Prop where
  unopened : ∀ blanks after, (∀ c ∈ blanks, isBlank c = true) → rest ≠ blanks ++ '(' :: after
  unquoted : ∀ blanks naming after, (∀ c ∈ blanks, isBlank c = true) → IsNaming naming →
    rest = blanks ++ (naming ++ '"' :: after) →
      ∃ gap, IsGap gap ∧ naming = "import".toList ++ gap

namespace Follows

variable {rest : List Char}

theorem nil : Follows [] where
  unopened := by simp
  unquoted := by simp

theorem blank {c : Char} (blank : isBlank c = true) (follows : Follows rest) :
    Follows (c :: rest) where
  unopened := by
    intro blanks after isBlanks split
    cases blanks with
    | nil =>
        obtain ⟨rfl, _⟩ := List.cons.inj split
        exact absurd blank (by decide)
    | cons d blanks =>
        exact follows.unopened blanks after (List.forall_mem_cons.mp isBlanks).2
          (List.cons.inj split).2
  unquoted := by
    intro blanks naming after isBlanks isNaming split
    cases blanks with
    | nil =>
        have stops : Stops isBlank (c :: rest) := split ▸ isNaming.stops_isBlank after
        exact absurd blank (Bool.eq_false_iff.mp (stops c rfl))
    | cons d blanks =>
        exact follows.unquoted blanks naming after (List.forall_mem_cons.mp isBlanks).2 isNaming
          (List.cons.inj split).2

/-- No blanks stand before what does not begin with one. -/
theorem eq_nil_of_stops {blanks more : List Char} (isBlanks : ∀ c ∈ blanks, isBlank c = true)
    (stops : Stops isBlank (blanks ++ more)) : blanks = [] := by
  cases blanks with
  | nil => rfl
  | cons c blanks =>
      exact absurd (isBlanks c List.mem_cons_self) (Bool.eq_false_iff.mp (stops c rfl))

theorem slash (rest : List Char) : Follows ('/' :: rest) where
  unopened := by
    intro blanks after isBlanks split
    have stops : Stops isBlank ('/' :: rest) := stops_of_head rfl (by decide)
    obtain rfl := eq_nil_of_stops isBlanks (split ▸ stops)
    exact absurd (List.cons.inj split).1 (by decide)
  unquoted := by
    intro blanks naming after isBlanks isNaming split
    have stops : Stops isBlank ('/' :: rest) := stops_of_head rfl (by decide)
    obtain rfl := eq_nil_of_stops isBlanks (split ▸ stops)
    rcases isNaming with rfl | ⟨name, gap, named, word, _, rfl⟩
    · exact absurd (List.cons.inj split).1 (by decide)
    · obtain ⟨c, name, rfl⟩ := List.exists_cons_of_ne_nil named
      obtain ⟨rfl, _⟩ := List.cons.inj split
      exact absurd (word '/' List.mem_cons_self) (by decide)

/-- A word with a gap behind it is a naming where a quotation mark follows. -/
theorem word {word gap more : List Char} (filled : word ≠ [])
    (isWord : ∀ c ∈ word, isAliasChar c = true) (isGap : IsGap gap) (stops : Stops isBlank more)
    (quoted : ∀ after, more = '"' :: after → word = "import".toList) :
    Follows (word ++ (gap ++ more)) := by
  obtain ⟨first, others, starts⟩ := List.exists_cons_of_ne_nil filled
  have isFirst : isAliasChar first = true := isWord first (starts ▸ List.mem_cons_self)
  have begins : Stops isBlank (word ++ (gap ++ more)) := by
    rw [starts]
    refine stops_of_head rfl (Bool.eq_false_iff.mpr fun blank => ?_)
    exact Bool.false_ne_true ((isAliasChar_eq_false_of_isBlank blank).symm.trans isFirst)
  constructor
  · intro blanks after isBlanks split
    obtain rfl := eq_nil_of_stops isBlanks (split ▸ begins)
    rw [starts] at split
    obtain ⟨rfl, _⟩ := List.cons.inj split
    exact absurd isFirst (by decide)
  · intro blanks naming after isBlanks isNaming split
    obtain rfl := eq_nil_of_stops isBlanks (split ▸ begins)
    rcases isNaming with rfl | ⟨name, second, named, isName, isSecond, rfl⟩
    · rw [starts] at split
      obtain ⟨rfl, _⟩ := List.cons.inj split
      exact absurd isFirst (by decide)
    · rw [List.nil_append, List.append_assoc] at split
      have cut : (word ++ (gap ++ more)).span isAliasChar = (word, gap ++ more) :=
        span_isAliasChar isWord isGap
      rw [split, span_isAliasChar isName isSecond] at cut
      obtain ⟨rfl, same⟩ := Prod.mk.inj cut
      have run := span_eq_iff.mpr ⟨rfl, isGap.2, stops⟩
      rw [← same, span_eq_iff.mpr ⟨rfl, isSecond.2, stops_of_head rfl (by decide)⟩] at run
      obtain ⟨rfl, behind⟩ := Prod.mk.inj run
      exact ⟨second, isSecond, by rw [quoted after behind.symm]⟩

theorem blanks {blanks : List Char} (isBlanks : ∀ c ∈ blanks, isBlank c = true)
    (follows : Follows rest) : Follows (blanks ++ rest) := by
  induction blanks with
  | nil => exact follows
  | cons c blanks ih =>
      obtain ⟨first, later⟩ := List.forall_mem_cons.mp isBlanks
      exact (ih later).blank first

theorem writtenRemark (remark : Option Remark) (follows : Follows rest) :
    Follows (writtenRemark remark ++ '\n' :: rest) := by
  cases remark with
  | none => exact follows.blank (by decide)
  | some remark =>
      rw [Go.writtenRemark, List.append_assoc]
      exact (slash _).blanks remark.isBlank_of_mem_gap

end Follows

/-! ## Lines in which nothing is found -/

theorem importClause?_eq_none {c : Char} (differs : c ≠ 'i') (rest : List Char) :
    importClause? (c :: rest) = none := by
  apply Option.eq_none_iff_forall_ne_some.mpr
  rintro ⟨path, after⟩ found
  obtain ⟨_, _, gap, naming, _, _, split⟩ := importClause?_eq_some_iff.mp found
  exact differs (List.cons.inj split).1

/-- What is left of a line is closed by its line break. -/
theorem newline_mem_of_suffix {line part : List Char} (filled : part ≠ [])
    (suffix : part <:+ line ++ ['\n']) : '\n' ∈ part := by
  obtain ⟨before, split⟩ := suffix
  have last := congrArg List.getLast? split
  rw [List.getLast?_append, List.getLast?_concat, List.getLast?_eq_some_getLast filled,
    Option.some_or] at last
  exact Option.some.inj last ▸ List.getLast_mem filled

/-- A part with a mark reaches over what is unmarked. -/
theorem exists_eq_append_of_mem {mark : Char} {front back part behind : List Char}
    (split : front ++ back = part ++ behind) (member : mark ∈ part) (unmarked : mark ∉ front) :
    ∃ rest, part = front ++ rest ∧ back = rest ++ behind := by
  rcases List.append_eq_append_iff.mp split with found | ⟨rest, rfl, _⟩
  · exact found
  · exact absurd (List.mem_append_left rest member) unmarked

variable {line front rest : List Char} {remark : Option Remark}

theorem findAll_importBlock?_line (quiet : ¬ Holds IsBlockFront '(' (line ++ ['\n']))
    (follows : Follows rest) :
    findAll importBlock? 0 (line ++ '\n' :: rest) = findAll importBlock? 0 rest := by
  rw [← List.singleton_append, ← List.append_assoc]
  apply findAll_append
  intro c part suffix
  left
  apply Option.eq_none_iff_forall_ne_some.mpr
  rintro ⟨inside, after⟩ found
  obtain ⟨_, gap, blank, split⟩ := importBlock?_eq_some_iff.mp found
  rw [← List.cons_append, ← List.append_assoc] at split
  obtain ⟨behind, covers, rfl⟩ :=
    exists_behind_of_not_holds quiet suffix ⟨gap, blank, rfl⟩ split
  have broken := newline_mem_of_suffix (List.cons_ne_nil c part) suffix
  obtain ⟨_, _, rfl⟩ := exists_eq_append_of_mem covers broken (by decide)
  exact follows.unopened behind _ (fun d member => blank d (List.mem_append_right _ member)) rfl

theorem findAll_importBlock?_remark (unopened : '(' ∉ front) (quiet : Quiet remark)
    (follows : Follows rest) :
    findAll importBlock? 0 (front ++ writtenRemark remark ++ '\n' :: rest) =
      findAll importBlock? 0 rest := by
  refine findAll_importBlock?_line ?_ follows
  exact not_holds_writtenRemark unopened (by decide)
    (fun _ isFront => isFront.not_mem (by decide) (by decide)) fun text listed =>
      (quiet text listed).1

theorem findAll_importBlock?_of_some {text inside after : List Char}
    (found : importBlock? text = some (inside, after)) :
    findAll importBlock? 0 text = inside :: findAll importBlock? 0 after := by
  obtain ⟨_, gap, _, split⟩ := importBlock?_eq_some_iff.mp found
  have shape : text = ("import".toList ++ (gap ++ '(' :: (inside ++ [')']))) ++ after := by
    rw [split]
    simp
  rw [shape] at found ⊢
  exact findAll_of_some (by simp) found

/-- A search for clauses passes blanks. -/
theorem findAll_importClause?_blanks {blanks : List Char}
    (isBlanks : ∀ c ∈ blanks, isBlank c = true) (rest : List Char) :
    findAll importClause? 0 (blanks ++ rest) = findAll importClause? 0 rest := by
  apply findAll_append
  intro c part suffix
  left
  apply importClause?_eq_none
  rintro rfl
  exact absurd (isBlanks 'i' (suffix.subset List.mem_cons_self)) (by decide)

theorem findAll_importClause?_of_some {text path after : List Char}
    (found : importClause? text = some (path, after)) :
    findAll importClause? 0 text = path :: findAll importClause? 0 after := by
  obtain ⟨_, _, gap, naming, _, _, split⟩ := importClause?_eq_some_iff.mp found
  have shape : text =
      ("import".toList ++ (gap ++ (naming ++ '"' :: (path ++ ['"'])))) ++ after := by
    rw [split]
    simp
  rw [shape] at found ⊢
  exact findAll_of_some (by simp) found

/-- What is left of a front behind a line break is blanks, and perhaps a naming behind them. -/
theorem exists_naming_of_front {gap naming part behind : List Char} (isGap : IsGap gap)
    (isNaming : IsNaming naming) (suffix : part <:+ line ++ ['\n']) (filled : part ≠ [])
    (covers : "import".toList ++ (gap ++ naming) = part ++ behind) :
    ∃ blanks later, (∀ c ∈ blanks, isBlank c = true) ∧ IsNaming later ∧
      behind = blanks ++ later := by
  obtain ⟨first, rfl, split⟩ := exists_eq_append_of_mem covers
    (newline_mem_of_suffix filled suffix) (by decide)
  rcases List.append_eq_append_iff.mp split with ⟨second, rfl, named⟩ | ⟨blanks, rfl, rfl⟩
  · by_cases empty : second = []
    · subst empty
      exact ⟨[], naming, by simp, isNaming, named.symm⟩
    · have within : second <:+ line ++ ['\n'] := by
        rw [← List.append_assoc] at suffix
        exact (List.suffix_append _ second).trans suffix
      have broken := newline_mem_of_suffix empty within
      rcases isNaming with rfl | ⟨name, last, _, isName, isLast, rfl⟩
      · exact absurd (List.append_eq_nil_iff.mp named.symm).1 empty
      · have unbroken : '\n' ∉ name := fun member => absurd (isName _ member) (by decide)
        obtain ⟨rest, rfl, rfl⟩ := exists_eq_append_of_mem named broken unbroken
        exact ⟨behind, [], fun c member => isLast.2 c (List.mem_append_right rest member), .inl rfl,
          (List.append_nil behind).symm⟩
  · exact ⟨blanks, naming, fun c member => isGap.2 c (List.mem_append_right first member), isNaming,
      rfl⟩

theorem findAll_importClause?_line (quiet : ¬ Holds IsClauseFront '"' (line ++ ['\n']))
    (follows : Follows rest) :
    findAll importClause? 0 (line ++ '\n' :: rest) = findAll importClause? 0 rest := by
  rw [← List.singleton_append, ← List.append_assoc]
  apply findAll_append
  intro c part suffix
  cases found : importClause? (c :: (part ++ rest)) with
  | none => exact .inl rfl
  | some clause =>
      right
      obtain ⟨path, after⟩ := clause
      obtain ⟨filled, unquoted, gap, naming, isGap, isNaming, split⟩ :=
        importClause?_eq_some_iff.mp found
      rw [findAll_importClause?_of_some found]
      have regrouped : c :: part ++ rest =
          "import".toList ++ (gap ++ naming) ++ '"' :: (path ++ '"' :: after) := by
        rw [List.cons_append, split]
        simp only [List.append_assoc]
      obtain ⟨behind, covers, rfl⟩ :=
        exists_behind_of_not_holds quiet suffix ⟨gap, naming, isGap, isNaming, rfl⟩ regrouped
      obtain ⟨blanks, later, isBlanks, isLater, rfl⟩ :=
        exists_naming_of_front isGap isNaming suffix (List.cons_ne_nil c part) covers
      obtain ⟨second, isSecond, rfl⟩ :=
        follows.unquoted blanks later _ isBlanks isLater (List.append_assoc _ _ _)
      have later : importClause? ("import".toList ++ second ++ '"' :: (path ++ '"' :: after)) =
          some (path, after) :=
        importClause?_eq_some_iff.mpr ⟨filled, unquoted, second, [], isSecond, .inl rfl,
          List.append_assoc _ _ _⟩
      rw [List.append_assoc, findAll_importClause?_blanks isBlanks,
        findAll_importClause?_of_some later]

theorem findAll_importClause?_remark (unquoted : '"' ∉ front) (quiet : Quiet remark)
    (follows : Follows rest) :
    findAll importClause? 0 (front ++ writtenRemark remark ++ '\n' :: rest) =
      findAll importClause? 0 rest := by
  refine findAll_importClause?_line ?_ follows
  exact not_holds_writtenRemark unquoted (by decide)
    (fun _ isFront => isFront.not_mem (by decide) (by decide)) fun text listed =>
      (quiet text listed).2

end TestImpact.Go
