import TestImpact.Glob.Limit

/-!
# Braces in braces

Braces around one another can be read however deep they are. Put together with other
patterns they are refused from a certain depth on, so to be readable is not enough.
-/

namespace TestImpact.Glob

def braced (depth : Nat) : String :=
  String.ofList (List.replicate depth '\x7b' ++ 'a' :: List.replicate depth '\x7d')

def bracedToken : Nat → Token
  | 0 => .literal 'a'
  | depth + 1 => .alternatives [[bracedToken depth]]

theorem readPattern_openBrace (reading : Reading) (previous : Option Char) (rest : List Char) :
    readPattern reading previous ('\x7b' :: rest) =
      readPattern reading.openBrace (some '\x7b') rest := by
  simp [readPattern]

theorem readPattern_closeBrace (reading : Reading) (token : Token) (previous : Option Char)
    (rest : List Char) :
    readPattern (reading.openBrace.push token) previous ('\x7d' :: rest) =
      readPattern (reading.push (.alternatives [[token]])) (some '\x7d') rest := by
  simp [readPattern, Reading.openBrace, Reading.push, Reading.closeBrace, Branches.push,
    Branches.start, Branches.toList, Branches.next]

theorem readPattern_braced (depth : Nat) (reading : Reading) (previous : Option Char)
    (rest : List Char) :
    ∃ last, readPattern reading previous
        (List.replicate depth '\x7b' ++ 'a' :: (List.replicate depth '\x7d' ++ rest)) =
      readPattern (reading.push (bracedToken depth)) (some last) rest := by
  induction depth generalizing reading previous rest with
  | zero => exact ⟨'a', by simp [readPattern, bracedToken]⟩
  | succ depth ih =>
      obtain ⟨last, inside⟩ := ih reading.openBrace (some '\x7b') ('\x7d' :: rest)
      refine ⟨'\x7d', ?_⟩
      rw [List.replicate_succ, List.cons_append, readPattern_openBrace, List.replicate_succ',
        List.append_assoc, List.singleton_append, inside, readPattern_closeBrace]
      rfl

theorem readPattern_braced_all (depth : Nat) :
    readPattern .start none (braced depth).toList = .ok [bracedToken depth] := by
  obtain ⟨last, read⟩ := readPattern_braced depth .start none []
  rw [List.append_nil] at read
  rw [braced, String.toList_ofList, read]
  rfl

theorem compile_braced (depth : Nat) :
    compile (braced depth) = .ok (.ofTokens [bracedToken depth]) := by
  rw [compile, readPattern_braced_all]
  rfl

theorem isSilent_bracedToken (depth : Nat) : (bracedToken depth).isSilent = false := by
  induction depth with
  | zero => rfl
  | succ depth ih => simp [bracedToken, Token.isSilent, areSilent, isSilentRow, ih]

/-- Each brace adds a level. -/
theorem nesting_bracedToken (depth : Nat) : (bracedToken depth).nesting = depth := by
  induction depth with
  | zero => rfl
  | succ depth ih =>
      have single : (bracedToken depth).atomCount ≤ 1 := by
        cases depth with
        | zero => decide
        | succ depth =>
            rw [bracedToken, Token.atomCount]
            split <;> simp
      simp [bracedToken, Token.nesting, groupLevels, isSilentRow, isSilent_bracedToken,
        nestingOfBranches, nestingOfParts, rowLevel, single, ih, Nat.add_comm]

theorem nestingOf?_braced (depth : Nat) : nestingOf? (braced (depth + 1)) = some (depth + 2) := by
  rw [nestingOf?, readPattern_braced_all]
  have nested : nestingOfPattern? [bracedToken (depth + 1)] =
      some (1 + max (bracedToken (depth + 1)).nesting 0) := rfl
  dsimp only
  rw [nested, nesting_bracedToken, Nat.max_zero, Nat.add_comm]

/-- Braces of a certain depth are refused, though they can be read. -/
theorem nestingLimit_braced {depth : Nat} (deep : deepestNesting ≤ depth) :
    nestingLimit [braced depth] = some "error parsing pattern 0" := by
  obtain ⟨depth, rfl⟩ : ∃ less, depth = less + 1 :=
    ⟨depth - 1, by rw [deepestNesting] at deep; omega⟩
  have exceeds : deepestNesting < depth + 2 := by omega
  have found : ([braced (depth + 1)].filterMap nestingOf?).findIdx? (deepestNesting < ·) =
      some 0 := by
    simp [nestingOf?_braced, exceeds]
  rw [nestingLimit, found]
  decide

end TestImpact.Glob
