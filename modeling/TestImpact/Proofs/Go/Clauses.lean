import TestImpact.Go.Source
import TestImpact.Proofs.Text.Search

/-!
# Forms of clauses

A clause is read off the front of a text exactly if the text begins with its form: the word
of the clause, blanks, and what the clause names.
-/

namespace TestImpact.Go

open Text (isBlank isWordChar dropPart?_eq_some_iff Stops span_eq_iff span_ne_eq_iff
  dropWhile_eq_iff stops_dropWhile takeWhile_append dropWhile_append
  isWordChar_eq_false_of_isBlank)

def IsGap (gap : List Char) : Prop := gap ≠ [] ∧ ∀ c ∈ gap, isBlank c = true

def IsName (name : List Char) : Prop := name ≠ [] ∧ ∀ c ∈ name, isWordChar c = true

instance : DecidablePred IsGap := fun gap =>
  decidable_of_iff (gap ≠ [] ∧ gap.all isBlank = true) (by rw [List.all_eq_true]; rfl)

instance : DecidablePred IsName := fun name =>
  decidable_of_iff (name ≠ [] ∧ name.all isWordChar = true) (by rw [List.all_eq_true]; rfl)

/-- What may stand before the path of an import: a name with a gap behind it, or nothing. -/
def IsNaming (naming : List Char) : Prop :=
  naming = [] ∨ ∃ name gap, name ≠ [] ∧ (∀ c ∈ name, isAliasChar c = true) ∧ IsGap gap ∧
    naming = name ++ gap

/-- One space is a gap. -/
theorem isGap_space : IsGap [' '] := by decide

theorem stops_of_head {kind : Char → Bool} {c : Char} {text rest : List Char}
    (starts : text = c :: rest) (other : kind c = false) : Stops kind text := by
  subst starts
  rintro d ⟨⟩
  exact other

theorem IsName.stops_isBlank {name : List Char} (named : IsName name) (after : List Char) :
    Stops isBlank (name ++ after) := by
  obtain ⟨c, rest, rfl⟩ := List.exists_cons_of_ne_nil named.1
  refine stops_of_head rfl (Bool.eq_false_iff.mpr fun blank => ?_)
  exact Bool.false_ne_true ((isWordChar_eq_false_of_isBlank blank).symm.trans
    (named.2 c List.mem_cons_self))

theorem isAliasChar_eq_false_of_isBlank {c : Char} (blank : isBlank c = true) :
    isAliasChar c = false := by
  rw [isAliasChar, isWordChar_eq_false_of_isBlank blank, Bool.false_or, decide_eq_false_iff_not]
  rintro rfl
  exact absurd blank (by decide)

theorem dropBlanks?_eq_some_iff {text rest : List Char} :
    dropBlanks? text = some rest ↔
      ∃ gap, IsGap gap ∧ text = gap ++ rest ∧ Stops isBlank rest := by
  cases text with
  | nil =>
      refine iff_of_false (fun nothing => by cases nothing) ?_
      rintro ⟨gap, ⟨filled, _⟩, split, _⟩
      exact filled (List.append_eq_nil_iff.mp split.symm).1
  | cons c text =>
      rw [dropBlanks?, Option.ite_none_right_eq_some, Option.some.injEq, dropWhile_eq_iff]
      constructor
      · rintro ⟨blank, front, rfl, run, stops⟩
        exact ⟨c :: front, ⟨List.cons_ne_nil c front, List.forall_mem_cons.mpr ⟨blank, run⟩⟩, rfl,
          stops⟩
      · rintro ⟨gap, ⟨filled, run⟩, split, stops⟩
        obtain ⟨d, front, rfl⟩ := List.exists_cons_of_ne_nil filled
        obtain ⟨rfl, rfl⟩ := List.cons.inj split
        obtain ⟨blank, later⟩ := List.forall_mem_cons.mp run
        exact ⟨blank, front, rfl, later, stops⟩

theorem packageClause?_eq_some_iff {text name : List Char} :
    packageClause? text = some name ↔
      IsName name ∧ ∃ space gap after, (∀ c ∈ space, isBlank c = true) ∧ IsGap gap ∧
        Stops isWordChar after ∧
        text = space ++ ("package".toList ++ (gap ++ (name ++ after))) := by
  rw [packageClause?]
  simp only [Option.bind_eq_bind, Option.bind_eq_some_iff, dropPart?_eq_some_iff,
    dropWhile_eq_iff, dropBlanks?_eq_some_iff, Option.ite_none_left_eq_some, Option.some.injEq,
    List.isEmpty_iff]
  constructor
  · rintro ⟨behind, ⟨space, rfl, blank, _⟩, rest, ⟨gap, isGap, rfl, _⟩, filled, rfl⟩
    refine ⟨⟨filled, fun _ => List.mem_takeWhile_imp⟩, space, gap, rest.dropWhile isWordChar, blank,
      isGap, stops_dropWhile _ _, ?_⟩
    rw [List.takeWhile_append_dropWhile]
  · rintro ⟨named, space, gap, after, blank, isGap, stops, rfl⟩
    refine ⟨_, ⟨space, rfl, blank, stops_of_head rfl (by decide)⟩, _,
      ⟨gap, isGap, rfl, named.stops_isBlank after⟩, ?_, ?_⟩
    · rw [takeWhile_append named.2 stops]
      exact named.1
    · exact takeWhile_append named.2 stops

theorem quotedPath?_eq_some_iff {text path after : List Char} :
    quotedPath? text = some (path, after) ↔
      path ≠ [] ∧ '"' ∉ path ∧ text = '"' :: (path ++ '"' :: after) := by
  constructor
  · intro read
    unfold quotedPath? at read
    split at read
    · split at read
      · rename_i cut
        obtain ⟨rfl, unquoted, rfl⟩ := span_ne_eq_iff.mp cut
        obtain ⟨filled, same⟩ := Option.ite_none_left_eq_some.mp read
        cases same
        exact ⟨mt List.isEmpty_iff.mpr filled, unquoted, rfl⟩
      · cases read
    · cases read
  · rintro ⟨filled, unquoted, rfl⟩
    rw [quotedPath?, span_ne_eq_iff.mpr ⟨rfl, unquoted, rfl⟩]
    exact if_neg (mt List.isEmpty_iff.mp filled)

theorem importBlock?_eq_some_iff {text inside after : List Char} :
    importBlock? text = some (inside, after) ↔ ')' ∉ inside ∧
      ∃ gap, (∀ c ∈ gap, isBlank c = true) ∧
        text = "import".toList ++ (gap ++ '(' :: (inside ++ ')' :: after)) := by
  rw [importBlock?]
  simp only [Option.bind_eq_bind, Option.bind_eq_some_iff, dropPart?_eq_some_iff]
  constructor
  · rintro ⟨behind, rfl, read⟩
    split at read
    · rename_i rest opened
      obtain ⟨gap, rfl, blank, _⟩ := dropWhile_eq_iff.mp opened
      split at read
      · rename_i cut
        obtain ⟨rfl, unclosed, rfl⟩ := span_ne_eq_iff.mp cut
        cases read
        exact ⟨unclosed, gap, blank, rfl⟩
      · cases read
    · cases read
  · rintro ⟨unclosed, gap, blank, rfl⟩
    have opened : (gap ++ '(' :: (inside ++ ')' :: after)).dropWhile isBlank =
        '(' :: (inside ++ ')' :: after) :=
      dropWhile_append blank (stops_of_head rfl (by decide))
    refine ⟨_, rfl, ?_⟩
    split
    · rename_i rest same
      obtain ⟨_, rfl⟩ := List.cons.inj (opened.symm.trans same)
      rw [span_ne_eq_iff.mpr ⟨rfl, unclosed, rfl⟩]
    · rename_i other
      exact absurd opened (other _)

/-- The name given to an import runs up to the gap behind it. -/
theorem span_isAliasChar {name gap rest : List Char} (word : ∀ c ∈ name, isAliasChar c = true)
    (isGap : IsGap gap) : (name ++ (gap ++ rest)).span isAliasChar = (name, gap ++ rest) := by
  refine span_eq_iff.mpr ⟨rfl, word, ?_⟩
  obtain ⟨c, blanks, rfl⟩ := List.exists_cons_of_ne_nil isGap.1
  exact stops_of_head rfl (isAliasChar_eq_false_of_isBlank (isGap.2 c List.mem_cons_self))

theorem IsNaming.stops_isBlank {naming : List Char} (isNaming : IsNaming naming)
    (rest : List Char) : Stops isBlank (naming ++ '"' :: rest) := by
  rcases isNaming with rfl | ⟨name, gap, named, word, _, rfl⟩
  · exact stops_of_head rfl (by decide)
  · obtain ⟨c, others, rfl⟩ := List.exists_cons_of_ne_nil named
    refine stops_of_head rfl (Bool.eq_false_iff.mpr fun blank => ?_)
    exact Bool.false_ne_true ((isAliasChar_eq_false_of_isBlank blank).symm.trans
      (word c List.mem_cons_self))

theorem importClause?_eq_some_iff {text path after : List Char} :
    importClause? text = some (path, after) ↔ path ≠ [] ∧ '"' ∉ path ∧
      ∃ gap naming, IsGap gap ∧ IsNaming naming ∧
        text = "import".toList ++ (gap ++ (naming ++ '"' :: (path ++ '"' :: after))) := by
  rw [importClause?]
  simp only [Option.bind_eq_bind, Option.bind_eq_some_iff, dropPart?_eq_some_iff,
    dropBlanks?_eq_some_iff]
  constructor
  · rintro ⟨behind, rfl, rest, ⟨gap, isGap, rfl, _⟩, read⟩
    split at read
    · obtain ⟨filled, unquoted, rfl⟩ := quotedPath?_eq_some_iff.mp read
      exact ⟨filled, unquoted, gap, [], isGap, .inl rfl, rfl⟩
    · rename_i name behindName named cut
      obtain ⟨rfl, word, _⟩ := span_eq_iff.mp cut
      obtain ⟨quoted, blanks, told⟩ := Option.bind_eq_some_iff.mp read
      obtain ⟨second, isSecond, rfl, _⟩ := dropBlanks?_eq_some_iff.mp blanks
      obtain ⟨filled, unquoted, rfl⟩ := quotedPath?_eq_some_iff.mp told
      refine ⟨filled, unquoted, gap, name ++ second, isGap, .inr ⟨name, second, ?_, word, isSecond,
        rfl⟩, by rw [List.append_assoc]⟩
      rintro rfl
      exact named rfl
  · rintro ⟨filled, unquoted, gap, naming, isGap, isNaming, rfl⟩
    refine ⟨_, rfl, _, ⟨gap, isGap, rfl, isNaming.stops_isBlank _⟩, ?_⟩
    have quoted : quotedPath? ('"' :: (path ++ '"' :: after)) = some (path, after) :=
      quotedPath?_eq_some_iff.mpr ⟨filled, unquoted, rfl⟩
    rcases isNaming with rfl | ⟨name, second, named, word, isSecond, rfl⟩
    · have unnamed : ('"' :: (path ++ '"' :: after)).span isAliasChar =
          ([], '"' :: (path ++ '"' :: after)) :=
        span_eq_iff.mpr ⟨rfl, by simp, stops_of_head rfl (by decide)⟩
      rw [List.nil_append, unnamed]
      exact quoted
    · rw [List.append_assoc, span_isAliasChar word isSecond]
      split
      · rename_i same
        exact absurd (Prod.mk.inj same).1 named
      · rename_i same
        obtain ⟨rfl, rfl⟩ := Prod.mk.inj same
        rw [dropBlanks?_eq_some_iff.mpr ⟨second, isSecond, rfl, stops_of_head rfl (by decide)⟩]
        exact quoted

end TestImpact.Go
