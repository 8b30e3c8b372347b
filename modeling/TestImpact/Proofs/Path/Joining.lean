import TestImpact.Path

/-!
# Paths put together

Where a path leads from a directory does not hang on the place where one stops on the way,
and what a path ends with its file name ends with. So a file that is found in one directory
can be named from another.
-/

namespace TestImpact.Path

def slashBehind (directory : List Char) : List Char :=
  if directory.getLast?.all (· = '/') then [] else ['/']

theorem slashBehind_append (directory : List Char) {path : List Char} (named : path ≠ []) :
    slashBehind (directory ++ path) = slashBehind path := by
  rw [slashBehind, slashBehind, List.getLast?_append, List.getLast?_eq_some_getLast named,
    Option.some_or]

theorem slashBehind_closed (directory : List Char) :
    slashBehind (directory ++ slashBehind directory) = [] := by
  rw [slashBehind]
  split
  · rfl
  · rename_i unclosed
    unfold slashBehind at unclosed
    split at unclosed <;> simp_all

theorem join_of_isAbsolute {path : String} (absolute : isAbsolute path = true)
    (directory : String) : join directory path = path := if_pos absolute

theorem toList_join {path : String} (relative : isAbsolute path = false) (directory : String) :
    (join directory path).toList =
      directory.toList ++ slashBehind directory.toList ++ path.toList := by
  rw [join, if_neg (Bool.eq_false_iff.mp relative), slashBehind]
  cases last : directory.toList.getLast? with
  | none => simp [List.getLast?_eq_none_iff.mp last]
  | some c =>
      by_cases slash : c = '/' <;> simp [slash]

theorem isAbsolute_join {path : String} (relative : isAbsolute path = false) {directory : String}
    (named : directory.toList ≠ []) :
    isAbsolute (join directory path) = isAbsolute directory := by
  obtain ⟨first, rest, split⟩ := List.exists_cons_of_ne_nil named
  rw [isAbsolute, isAbsolute, toList_join relative, split]
  rfl

/-- From nowhere a path leads where the directory does. -/
theorem join_join_empty {third : String} (relative : isAbsolute third = false) (first : String) :
    join (join first "") third = join first (join "" third) := by
  have idle : join "" third = third := if_neg (Bool.eq_false_iff.mp relative)
  apply String.toList_injective
  rw [idle, toList_join relative, toList_join relative, toList_join rfl, String.toList_empty,
    List.append_nil, slashBehind_closed, List.append_nil]

/-- Where a path leads from a directory does not hang on where one stops on the way. -/
theorem join_join (first second third : String) :
    join (join first second) third = join first (join second third) := by
  cases thirdIs : isAbsolute third with
  | true =>
      rw [join_of_isAbsolute thirdIs, join_of_isAbsolute thirdIs, join_of_isAbsolute thirdIs]
  | false =>
      by_cases empty : second.toList = []
      · rw [String.toList_eq_nil_iff.mp empty]
        exact join_join_empty thirdIs first
      · have same := isAbsolute_join thirdIs empty
        cases secondIs : isAbsolute second with
        | true =>
            rw [join_of_isAbsolute secondIs, join_of_isAbsolute (same.trans secondIs)]
        | false =>
            apply String.toList_injective
            rw [toList_join thirdIs, toList_join secondIs, slashBehind_append _ empty,
              toList_join (same.trans secondIs), toList_join thirdIs]
            simp only [List.append_assoc]

theorem pieces_of_not_mem {piece : List Char} (single : '/' ∉ piece) : pieces piece = [piece] := by
  induction piece with
  | nil => rfl
  | cons c piece ih =>
      obtain ⟨differs, rest⟩ := not_or.mp (mt List.mem_cons.mpr single)
      rw [pieces, if_neg (Ne.symm differs), ih rest]

/-- What a path ends with, if no slash is in it, its last piece ends with. -/
theorem exists_pieces_of_suffix {path ending : List Char} (ends : ending <:+ path)
    (single : '/' ∉ ending) :
    ∃ before last, pieces path = before ++ [last] ∧ ending <:+ last := by
  obtain ⟨front, rfl⟩ := ends
  induction front with
  | nil => exact ⟨[], ending, pieces_of_not_mem single, List.suffix_rfl⟩
  | cons c front ih =>
      obtain ⟨before, last, cut, suffix⟩ := ih
      rw [List.cons_append, pieces, cut]
      split
      · exact ⟨[] :: before, last, rfl, suffix⟩
      · cases before with
        | nil => exact ⟨[], c :: last, rfl, suffix.trans (List.suffix_cons c last)⟩
        | cons first others => exact ⟨(c :: first) :: others, last, rfl, suffix⟩

/-- Cutting off the head of a path leaves its last piece, unless that is the head. -/
theorem exists_pieces_splitHead {path last : List Char} {before : List (List Char)}
    (cut : pieces path = before ++ [last]) (long : 1 < last.length) :
    ∃ front, pieces (splitHead path).2 = front ++ [last] := by
  have notFirst (head : List Char) (rest : List (List Char)) (short : head.length ≤ 1)
      (parts : head :: rest = before ++ [last]) : ∃ others, rest = others ++ [last] := by
    cases before with
    | nil =>
        obtain rfl : head = last := (List.cons.inj parts).1
        exact absurd long (Nat.not_lt.mpr short)
    | cons first others => exact ⟨others, (List.cons.inj parts).2⟩
  unfold splitHead
  split
  · exact notFirst [] _ (Nat.zero_le 1) cut
  · obtain ⟨others, nothing⟩ := notFirst ['.'] [] (Nat.le_refl 1) cut
    exact absurd nothing (by simp)
  · obtain ⟨others, behind⟩ := notFirst ['.'] _ (Nat.le_refl 1) cut
    exact ⟨[] :: others, congrArg ([] :: ·) behind⟩
  · exact ⟨before, cut⟩

/-- A path that ends with more than two characters other than slashes names a file whose name
ends with them. -/
theorem exists_fileName?_of_suffix {path : String} {ending : List Char}
    (ends : ending <:+ path.toList) (single : '/' ∉ ending) (long : 2 < ending.length) :
    ∃ name, fileName? path = some name ∧ ending <:+ name.toList := by
  obtain ⟨before, last, cut, suffix⟩ := exists_pieces_of_suffix ends single
  have longer : 2 < last.length := Nat.lt_of_lt_of_le long suffix.length_le
  obtain ⟨front, behind⟩ := exists_pieces_splitHead cut (Nat.lt_of_succ_lt longer)
  have leads : isIdle last = false := by
    rw [isIdle, Bool.or_eq_false_iff]
    refine ⟨?_, decide_eq_false ?_⟩
    · cases last with
      | nil => cases longer
      | cons c rest => rfl
    · rintro rfl
      exact absurd longer (by decide)
  have found : lastPiece? path.toList = some (last, (front.reverse.dropWhile isIdle).reverse) := by
    rw [lastPiece?, behind, List.reverse_append, List.reverse_singleton, List.singleton_append,
      List.dropWhile_cons_of_neg (Bool.eq_false_iff.mp leads)]
  refine ⟨String.ofList last, ?_, by rwa [String.toList_ofList]⟩
  rw [fileName?, found]
  refine if_neg ?_
  rintro rfl
  exact absurd longer (by decide)

end TestImpact.Path
