/-!
# Finding texts in texts

A text contains another if the other starts at one of its places.
-/

namespace TestImpact.Text

def containsChars (part : List Char) : List Char → Bool
  | [] => part.isEmpty
  | c :: rest => part.isPrefixOf (c :: rest) || containsChars part rest

/-- What is left of a row of characters behind a part that it starts with. -/
def dropPart? : List Char → List Char → Option (List Char)
  | [], text => some text
  | _ :: _, [] => none
  | first :: part, c :: rest => if c = first then dropPart? part rest else none

/-- Finds all places where a form stands, from left to right and apart from each
other. The form gives what it found and what is left behind it; `skipped` counts
the characters that still belong to the last place. -/
def findAll {α : Type} (form : List Char → Option (α × List Char)) :
    (skipped : Nat) → List Char → List α
  | _, [] => []
  | skipped + 1, _ :: rest => findAll form skipped rest
  | 0, c :: rest =>
      match form (c :: rest) with
      | some (found, after) => found :: findAll form (rest.length - after.length) rest
      | none => findAll form 0 rest

def contains (text part : String) : Bool := containsChars part.toList text.toList

def endsWith (text ending : String) : Bool := ending.toList.isSuffixOf text.toList

theorem containsChars_iff (part text : List Char) :
    containsChars part text = true ↔ ∃ before after, text = before ++ part ++ after := by
  induction text with
  | nil =>
      simp only [containsChars, List.isEmpty_iff]
      constructor
      · intro empty
        exact ⟨[], [], by simp [empty]⟩
      · rintro ⟨before, after, split⟩
        simp_all
  | cons c rest ih =>
      simp only [containsChars, Bool.or_eq_true, ih, List.isPrefixOf_iff_prefix]
      constructor
      · rintro (⟨after, starts⟩ | ⟨before, after, split⟩)
        · exact ⟨[], after, by simp [starts]⟩
        · exact ⟨c :: before, after, by simp [split]⟩
      · rintro ⟨before, after, split⟩
        cases before with
        | nil => exact Or.inl ⟨after, by simpa using split.symm⟩
        | cons first before =>
            simp only [List.cons_append, List.cons.injEq] at split
            exact Or.inr ⟨before, after, split.2⟩

end TestImpact.Text
