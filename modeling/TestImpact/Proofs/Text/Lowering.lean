import TestImpact.Text.Lowercase
import TestImpact.Text.Search

/-!
# Lower case of a part

Only the capital sigma looks at its neighbours when it is lowered. A part of a text has
the lower-case form that it has alone just when each of its capital sigmas ends a word in
the text as it does in the part. Parts that have it in every text are told by what their
capital sigmas see in the part itself; any other part is lost beside some letter.
-/

namespace TestImpact.Text

/-- Whether a word ends at a capital sigma, given the characters before it from the
nearest on and those behind it. -/
def endsWord (before after : List Char) : Bool := meetsCased before && !meetsCased after

def formAt (before : List Char) (c : Char) (after : List Char) : List Char :=
  if c = 'Σ' then (if endsWord before after then ['ς'] else ['σ']) else lowerChar c

theorem lowerFrom_cons (before : List Char) (c : Char) (rest : List Char) :
    lowerFrom before (c :: rest) = formAt before c rest ++ lowerFrom (c :: before) rest := rfl

/-- Lowers a part of a text, given the characters before it from the nearest on and those
behind it. -/
def lowerWithin (before : List Char) : List Char → List Char → List Char
  | [], _ => []
  | c :: part, after => formAt before c (part ++ after) ++ lowerWithin (c :: before) part after

theorem lowerWithin_nil (before part : List Char) :
    lowerWithin before part [] = lowerFrom before part := by
  induction part generalizing before with
  | nil => rfl
  | cons c part ih => rw [lowerWithin, lowerFrom_cons, ih, List.append_nil]

theorem lowerWithin_append (before front back after : List Char) :
    lowerWithin before (front ++ back) after =
      lowerWithin before front (back ++ after) ++
        lowerWithin (front.reverse ++ before) back after := by
  induction front generalizing before with
  | nil => rfl
  | cons c front ih =>
      rw [List.cons_append, lowerWithin, ih, lowerWithin, List.append_assoc, List.append_assoc,
        List.reverse_cons, List.append_assoc, List.singleton_append]

/-- Every part of a text is lowered in its place. -/
theorem lowerFrom_append (before part after : List Char) :
    lowerFrom before (part ++ after) =
      lowerWithin before part after ++ lowerFrom (part.reverse ++ before) after := by
  rw [← lowerWithin_nil, lowerWithin_append, List.append_nil, lowerWithin_nil]

/-- A part whose capital sigmas end words in the text around it, with the characters before
it from the nearest on, just when they do so in the part alone. -/
def EndsAlike (before part after : List Char) : Prop :=
  ∀ front back, part = front ++ 'Σ' :: back →
    endsWord (front.reverse ++ before) (back ++ after) = endsWord front.reverse back

theorem formAt_eq_iff {before seen : List Char} {c : Char} {after behind : List Char} :
    formAt before c after = formAt seen c behind ↔
      (c = 'Σ' → endsWord before after = endsWord seen behind) := by
  rw [formAt, formAt]
  split
  · cases endsWord before after <;> cases endsWord seen behind <;> simp_all
  · simp_all

theorem length_formAt (before seen : List Char) (c : Char) (after behind : List Char) :
    (formAt before c after).length = (formAt seen c behind).length := by
  rw [formAt, formAt]
  split
  · split <;> split <;> rfl
  · rfl

/-- The form of a part in its place, once some of it has been seen, is the one that it has
alone just when each capital sigma ends a word alike. -/
theorem lowerWithin_append_eq_iff {seen before part after : List Char} :
    lowerWithin (seen ++ before) part after = lowerFrom seen part ↔
      ∀ front back, part = front ++ 'Σ' :: back →
        endsWord (front.reverse ++ seen ++ before) (back ++ after) =
          endsWord (front.reverse ++ seen) back := by
  induction part generalizing seen with
  | nil => simp [lowerWithin, lowerFrom]
  | cons c part ih =>
      have apart : formAt (seen ++ before) c (part ++ after) ++
            lowerWithin (c :: seen ++ before) part after =
          formAt seen c part ++ lowerFrom (c :: seen) part ↔
            formAt (seen ++ before) c (part ++ after) = formAt seen c part ∧
              lowerWithin (c :: seen ++ before) part after = lowerFrom (c :: seen) part :=
        ⟨fun same => List.append_inj same (length_formAt ..), fun ⟨first, rest⟩ => by
          rw [first, rest]⟩
      rw [lowerWithin, lowerFrom_cons, ← List.cons_append, apart, formAt_eq_iff, ih]
      constructor
      · rintro ⟨first, later⟩ front back split
        cases front with
        | nil =>
            obtain ⟨rfl, rfl⟩ := List.cons.inj split
            exact first rfl
        | cons d front =>
            obtain ⟨rfl, rfl⟩ := List.cons.inj split
            simpa using later front back rfl
      · intro alike
        refine ⟨?_, ?_⟩
        · rintro rfl
          exact alike [] part rfl
        · rintro front back rfl
          simpa using alike (c :: front) back rfl

theorem lowerWithin_eq_iff {before part after : List Char} :
    lowerWithin before part after = lowerFrom [] part ↔ EndsAlike before part after := by
  simpa [EndsAlike] using @lowerWithin_append_eq_iff [] before part after

/-- A part that stands in a text at a place where its capital sigmas end words alike. -/
def StandsAlike (part text : List Char) : Prop :=
  ∃ before after, text = before ++ part ++ after ∧ EndsAlike before.reverse part after

/-- Where a part stands alike, its lower-case form stands in that of the text. -/
theorem containsChars_lowerFrom_of_standsAlike {part text : List Char}
    (stands : StandsAlike part text) :
    containsChars (lowerFrom [] part) (lowerFrom [] text) = true := by
  obtain ⟨before, after, rfl, alike⟩ := stands
  rw [containsChars_iff]
  refine ⟨lowerWithin [] before (part ++ after), lowerFrom (part.reverse ++ before.reverse) after, ?_⟩
  rw [List.append_assoc, lowerFrom_append, lowerFrom_append, List.append_nil,
    lowerWithin_eq_iff.mpr alike, List.append_assoc]

theorem contains_lowercase_of_standsAlike {part text : String}
    (stands : StandsAlike part.toList text.toList) :
    contains (lowercase text) (lowercase part) = true := by
  rw [contains, lowercase, lowercase, String.toList_ofList, String.toList_ofList]
  exact containsChars_lowerFrom_of_standsAlike stands

section Settled

/-- Whether the nearest character that is not looked through carries case, if there is one. -/
def nearestCased (text : List Char) : Option Bool :=
  (text.dropWhile fun c => ignoredCodePoints.contains c).head?.map casedCodePoints.contains

theorem meetsCased_eq (text : List Char) : meetsCased text = (nearestCased text).getD false := by
  rw [meetsCased, nearestCased]
  split
  · rename_i nothing
    rw [nothing]
    rfl
  · rename_i c rest nearest
    rw [nearest]
    rfl

theorem nearestCased_append (text more : List Char) :
    nearestCased (text ++ more) = (nearestCased text).or (nearestCased more) := by
  induction text with
  | nil => rfl
  | cons c text ih =>
      rw [nearestCased, nearestCased, List.cons_append, List.dropWhile_cons, List.dropWhile_cons]
      split
      · exact ih
      · rfl

theorem nearestCased_letter : nearestCased ['a'] = some true := by decide +kernel

/-- A part that holds for each of its capital sigmas all that tells whether a word ends
there: a cased character behind it, one without case before it, or one that is not looked
through on both sides. -/
def Settled (part : List Char) : Prop :=
  ∀ front back, part = front ++ 'Σ' :: back →
    nearestCased back = some true ∨ nearestCased front.reverse = some false ∨
      (nearestCased front.reverse).isSome ∧ (nearestCased back).isSome

theorem settled_of_notMem {part : List Char} (without : 'Σ' ∉ part) : Settled part := by
  rintro front back rfl
  exact absurd (List.mem_append_right front List.mem_cons_self) without

theorem endsAlike_of_settled {part : List Char} (settled : Settled part)
    (before after : List Char) : EndsAlike before part after := by
  intro front back split
  rw [endsWord, endsWord, meetsCased_eq, meetsCased_eq, meetsCased_eq, meetsCased_eq,
    nearestCased_append, nearestCased_append]
  rcases settled front back split with inside | outside | ⟨seenBefore, seenAfter⟩
  · simp [inside]
  · simp [outside]
  · obtain ⟨first, nearBefore⟩ := Option.isSome_iff_exists.mp seenBefore
    obtain ⟨second, nearAfter⟩ := Option.isSome_iff_exists.mp seenAfter
    simp [nearBefore, nearAfter]

variable {sign : Char} {outerBefore outerAfter : List Char}

/-- A form that capital sigmas take no more often in wider surroundings is taken no more
often by a part in wider surroundings. -/
theorem count_lowerWithin_le
    (fewer : ∀ before after, (formAt (before ++ outerBefore) 'Σ' (after ++ outerAfter)).count sign ≤
      (formAt before 'Σ' after).count sign) (before part after : List Char) :
    (lowerWithin (before ++ outerBefore) part (after ++ outerAfter)).count sign ≤
      (lowerWithin before part after).count sign := by
  induction part generalizing before with
  | nil => exact Nat.le_refl _
  | cons c part ih =>
      rw [lowerWithin, lowerWithin, List.count_append, List.count_append, ← List.append_assoc]
      refine Nat.add_le_add ?_ (ih (c :: before))
      by_cases isSigma : c = 'Σ'
      · subst isSigma
        exact fewer before (part ++ after)
      · exact Nat.le_of_eq (congrArg (List.count sign)
          (formAt_eq_iff.mpr fun same => absurd same isSigma))

/-- If one capital sigma of a part takes the form less often, so does the part. -/
theorem count_lowerWithin_lt
    (fewer : ∀ before after, (formAt (before ++ outerBefore) 'Σ' (after ++ outerAfter)).count sign ≤
      (formAt before 'Σ' after).count sign) (front back : List Char)
    (less : (formAt (front.reverse ++ outerBefore) 'Σ' (back ++ outerAfter)).count sign <
      (formAt front.reverse 'Σ' back).count sign) :
    (lowerWithin outerBefore (front ++ 'Σ' :: back) outerAfter).count sign <
      (lowerWithin [] (front ++ 'Σ' :: back) []).count sign := by
  have inFront := count_lowerWithin_le fewer [] front ('Σ' :: back)
  have inBack := count_lowerWithin_le fewer ('Σ' :: front.reverse) back []
  rw [lowerWithin_append, lowerWithin_append, lowerWithin, lowerWithin]
  simp only [List.count_append, List.append_nil, List.nil_append, List.cons_append] at *
  omega

theorem endsWord_eq (before after : List Char) : endsWord before after =
    ((nearestCased before).getD false && !(nearestCased after).getD false) := by
  rw [endsWord, meetsCased_eq, meetsCased_eq]

theorem count_final_formAt (before after : List Char) :
    (formAt before 'Σ' after).count 'ς' = if endsWord before after then 1 else 0 := by
  rw [formAt, if_pos rfl]
  split <;> rfl

theorem count_inner_formAt (before after : List Char) :
    (formAt before 'Σ' after).count 'σ' = if endsWord before after then 0 else 1 := by
  rw [formAt, if_pos rfl]
  split <;> rfl

theorem not_containsChars_of_count_lt (sign : Char) {part text : List Char}
    (fewer : text.count sign < part.count sign) : containsChars part text = false := by
  rw [← Bool.not_eq_true, containsChars_iff]
  rintro ⟨before, after, rfl⟩
  rw [List.count_append, List.count_append] at fewer
  omega

/-- A capital sigma that sees nothing before it, and no case behind it, ends a word once a
letter stands in front. -/
theorem lost_behind_letter {front back : List Char} (before : nearestCased front.reverse = none)
    (behind : nearestCased back ≠ some true) :
    containsChars (lowerFrom [] (front ++ 'Σ' :: back))
      (lowerFrom [] ('a' :: (front ++ 'Σ' :: back))) = false := by
  have fewer (before after : List Char) :
      (formAt (before ++ ['a']) 'Σ' (after ++ [])).count 'σ' ≤
        (formAt before 'Σ' after).count 'σ' := by
    rw [count_inner_formAt, count_inner_formAt, List.append_nil, endsWord_eq, endsWord_eq,
      nearestCased_append, nearestCased_letter]
    rcases nearestCased before with _ | _ | _ <;> rcases nearestCased after with _ | _ | _ <;> decide
  have less : (formAt (front.reverse ++ ['a']) 'Σ' (back ++ [])).count 'σ' <
      (formAt front.reverse 'Σ' back).count 'σ' := by
    rw [count_inner_formAt, count_inner_formAt, List.append_nil, endsWord_eq, endsWord_eq,
      nearestCased_append, nearestCased_letter, before]
    rcases seen : nearestCased back with _ | _ | _ <;> first | decide | exact absurd seen behind
  have lost := count_lowerWithin_lt fewer front back less
  apply not_containsChars_of_count_lt 'σ'
  rwa [lowerFrom_cons, ← lowerWithin_nil, ← lowerWithin_nil, List.count_append,
    show (formAt [] 'a' (front ++ 'Σ' :: back)).count 'σ' = 0 from rfl, Nat.zero_add]

/-- A capital sigma at the end of a word, with nothing to see behind it, is inside a word
once a letter stands behind. -/
theorem lost_before_letter {front back : List Char}
    (before : nearestCased front.reverse = some true) (behind : nearestCased back = none) :
    containsChars (lowerFrom [] (front ++ 'Σ' :: back))
      (lowerFrom [] (front ++ 'Σ' :: back ++ ['a'])) = false := by
  have fewer (before after : List Char) :
      (formAt (before ++ []) 'Σ' (after ++ ['a'])).count 'ς' ≤
        (formAt before 'Σ' after).count 'ς' := by
    rw [count_final_formAt, count_final_formAt, List.append_nil, endsWord_eq, endsWord_eq,
      nearestCased_append, nearestCased_letter]
    rcases nearestCased before with _ | _ | _ <;> rcases nearestCased after with _ | _ | _ <;> decide
  have less : (formAt (front.reverse ++ []) 'Σ' (back ++ ['a'])).count 'ς' <
      (formAt front.reverse 'Σ' back).count 'ς' := by
    rw [count_final_formAt, count_final_formAt, List.append_nil, endsWord_eq, endsWord_eq,
      nearestCased_append, nearestCased_letter, before, behind]
    decide
  have lost := count_lowerWithin_lt fewer front back less
  apply not_containsChars_of_count_lt 'ς'
  rwa [lowerFrom_append, ← lowerWithin_nil, ← lowerWithin_nil, List.count_append, lowerWithin_nil,
    show (lowerFrom ((front ++ 'Σ' :: back).reverse ++ []) ['a']).count 'ς' = 0 from rfl,
    Nat.add_zero]

theorem standsAlike_of_settled {part text : List Char} (settled : Settled part)
    (stands : containsChars part text = true) : StandsAlike part text := by
  obtain ⟨before, after, split⟩ := (containsChars_iff part text).mp stands
  exact ⟨before, after, split, endsAlike_of_settled settled before.reverse after⟩

/-- The lower-case form of a part stands in that of every text that the part stands in, just
when the part is settled. -/
theorem lowered_everywhere_iff {part : List Char} :
    (∀ text, containsChars part text = true →
        containsChars (lowerFrom [] part) (lowerFrom [] text) = true) ↔ Settled part := by
  constructor
  · rintro everywhere front back rfl
    have behindLetter := everywhere ('a' :: (front ++ 'Σ' :: back))
      ((containsChars_iff _ _).mpr ⟨['a'], [], by simp⟩)
    have beforeLetter := everywhere (front ++ 'Σ' :: back ++ ['a'])
      ((containsChars_iff _ _).mpr ⟨[], ['a'], by simp⟩)
    cases before : nearestCased front.reverse with
    | none =>
        by_cases behind : nearestCased back = some true
        · exact .inl behind
        · cases (lost_behind_letter before behind).symm.trans behindLetter
    | some cased =>
        cases cased with
        | false => exact .inr (.inl rfl)
        | true =>
            cases behind : nearestCased back with
            | none => cases (lost_before_letter before behind).symm.trans beforeLetter
            | some _ => exact .inr (.inr ⟨rfl, rfl⟩)
  · intro settled text stands
    exact containsChars_lowerFrom_of_standsAlike (standsAlike_of_settled settled stands)

theorem sigma_mem_lowerFrom {part : List Char} (sigma : 'Σ' ∈ part) (before : List Char) :
    'σ' ∈ lowerFrom before part ∨ 'ς' ∈ lowerFrom before part := by
  induction part generalizing before with
  | nil => cases sigma
  | cons c part ih =>
      rw [lowerFrom_cons, List.mem_append, List.mem_append]
      rcases List.mem_cons.mp sigma with rfl | later
      · rw [formAt, if_pos rfl]
        cases endsWord before part <;> simp
      · exact (ih later (c :: before)).imp .inr .inr

end Settled

end TestImpact.Text
