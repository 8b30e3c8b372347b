import TestImpact.Proofs.Text.Search

/-!
# What trimming leaves

Trimming cuts a text into blanks, a core and blanks again. The core neither begins nor
ends with a blank, and this decides where the cuts are.
-/

namespace TestImpact.Text

theorem trimChars_eq_nil_iff {text : List Char} :
    trimChars text = [] ↔ ∀ c ∈ text, isBlank c = true := by
  rw [trimChars, List.reverse_eq_nil_iff, List.dropWhile_eq_nil_iff]
  constructor
  · intro trimmed
    apply List.dropWhile_eq_nil_iff.mp
    cases left : text.dropWhile isBlank with
    | nil => rfl
    | cons c rest =>
        have visible : isBlank c = false := by
          have stops := stops_dropWhile isBlank text
          rw [left] at stops
          exact stops c rfl
        have blank := trimmed c (by rw [left]; simp)
        cases visible.symm.trans blank
  · intro blank c member
    exact blank c (List.dropWhile_subset _ (List.mem_reverse.mp member))

/-- The core of a text is told by the blanks around it. -/
theorem trimChars_eq_iff {text core : List Char} : trimChars text = core ↔
    ∃ before after, text = before ++ core ++ after ∧ (∀ c ∈ before, isBlank c = true) ∧
      (∀ c ∈ after, isBlank c = true) ∧ Stops isBlank core ∧ Stops isBlank core.reverse := by
  constructor
  · rintro rfl
    obtain ⟨before, cutFront, blankBefore, begins⟩ :=
      dropWhile_eq_iff.mp (rfl : text.dropWhile isBlank = _)
    obtain ⟨after, cutBack, blankAfter, ends⟩ :=
      dropWhile_eq_iff.mp (rfl : (text.dropWhile isBlank).reverse.dropWhile isBlank = _)
    have inner : text.dropWhile isBlank = trimChars text ++ after.reverse := by
      rw [trimChars, ← List.reverse_append, ← cutBack, List.reverse_reverse]
    refine ⟨before, after.reverse, ?_, blankBefore, by simpa using blankAfter, ?_, ?_⟩
    · rwa [List.append_assoc, ← inner]
    · intro c first
      rw [inner] at begins
      exact begins c (by rw [List.head?_append, Option.mem_def.mp first]; rfl)
    · rwa [trimChars, List.reverse_reverse]
  · rintro ⟨before, after, rfl, blankBefore, blankAfter, begins, ends⟩
    cases core with
    | nil =>
        rw [trimChars_eq_nil_iff, List.append_nil]
        exact List.forall_mem_append.mpr ⟨blankBefore, blankAfter⟩
    | cons c core =>
        have goesOn : Stops isBlank (c :: core ++ after) := fun _ first => begins _ first
        rw [trimChars, List.append_assoc, dropWhile_append blankBefore goesOn,
          List.reverse_append, dropWhile_append (by simpa using blankAfter) ends,
          List.reverse_reverse]

/-- A text is empty once it is trimmed if there is nothing in it but blanks. -/
theorem trim_eq_empty_iff {text : String} :
    trim text = "" ↔ ∀ c ∈ text.toList, isBlank c = true := by
  rw [trim, String.ofList_eq_empty_iff, trimChars_eq_nil_iff]

theorem isBlank_eq_false_of_isDigit {c : Char} (digit : c.isDigit = true) :
    isBlank c = false := by
  have apart : CodePoints.apart [(0x30, 0x39)] blanks = true := by decide
  apply CodePoints.contains_eq_false apart
  simpa [CodePoints.contains, Char.isDigit, UInt32.le_iff_toNat_le] using digit

end TestImpact.Text
