import Mathlib.Data.List.TakeWhile
import TestImpact.CommandLine.Arguments
import TestImpact.Proofs.Json.Numeral

/-!
# Switches on a command line

A switch that has a long name only is given exactly if this name, with two hyphens in front,
stands among the arguments behind the command and ahead of `--`. Nothing else can give it:
not the letters of other options, nor their paths, which are words.
-/

namespace TestImpact.CommandLine

open Json (exists_of_bind_eq_ok exists_of_map_eq_ok)

namespace Given

variable {given more : Given} {name : String}

theorem has_addPath {option path : String} (added : given.addPath option path = .ok more) :
    more.has name = true ↔ given.has name = true ∨ name = option := by
  rw [addPath] at added
  split at added
  · cases added
  · cases added
    by_cases same : name = option
    · simp [has, same]
    · have unlike : (name == option) = false := beq_eq_false_iff_ne.mpr same
      simp [has, List.lookup_cons, same, unlike]

theorem has_addSwitch {form : OptionForm} (added : given.addSwitch form = .ok more) :
    more.has name = true ↔ given.has name = true ∨ name = form.long := by
  rw [addSwitch] at added
  split at added
  · cases added
  · cases added
  · cases added
  · split at added
    · cases added
    · cases added
      simp [has, or_comm, or_assoc]

theorem has_addWord {form : WordForm} {word : String} (added : given.addWord form word = .ok more) :
    more.has name = given.has name := by
  rw [addWord] at added
  split at added
  · cases added
  · cases added
    rfl

theorem has_addWords {form : WordForm} {words : List String}
    (added : words.foldlM (addWord form) given = .ok more) : more.has name = given.has name := by
  induction words generalizing given with
  | nil =>
      cases added
      rfl
  | cons word words ih =>
      rw [List.foldlM_cons] at added
      obtain ⟨next, first, rest⟩ := exists_of_bind_eq_ok added
      exact (ih rest).trans (has_addWord first)

end Given

/-- Among options, a name stands for a switch that is given by nothing but its long form. -/
structure IsLongSwitch (forms : List OptionForm) (name : String) : Prop where
  plain : ∀ form ∈ forms, form.long = name → form.kind = .switch ∧ form.short = none
  unbroken : '=' ∉ name.toList

theorem takeWhile_of_unbroken {name : String} (unbroken : '=' ∉ name.toList) :
    name.toList.takeWhile (· ≠ '=') = name.toList := by
  rw [List.takeWhile_eq_self_iff]
  intro c member
  exact decide_eq_true fun equals => unbroken (equals ▸ member)

def longForm (name : String) : String := "--" ++ name

theorem toList_longForm (name : String) : (longForm name).toList = '-' :: '-' :: name.toList :=
  String.toList_append

theorem isWord_longForm (name : String) : isWord (longForm name) = false := by
  have behind : longForm name ≠ "-" := by
    intro same
    have hyphens := toList_longForm name
    rw [same] at hyphens
    cases hyphens
  simp [isWord, toList_longForm, behind]

theorem ne_longForm_of_isWord {argument : String} (word : isWord argument = true)
    (name : String) : argument ≠ longForm name := by
  rintro rfl
  cases (isWord_longForm name).symm.trans word

theorem ne_mark_of_isWord {argument : String} (word : isWord argument = true) :
    argument ≠ "--" := by
  rintro rfl
  cases word

theorem mem_takeWhile_cons {argument name : String} {rest : List String}
    (apart : argument ≠ "--") :
    longForm name ∈ (argument :: rest).takeWhile (· ≠ "--") ↔
      argument = longForm name ∨ longForm name ∈ rest.takeWhile (· ≠ "--") := by
  have kept : (argument :: rest).takeWhile (· ≠ "--") =
      argument :: rest.takeWhile (· ≠ "--") :=
    List.takeWhile_cons_of_pos (decide_eq_true apart)
  rw [kept, List.mem_cons, eq_comm]

variable {forms : List OptionForm} {given more : Given} {name : String}
  {waiting : Option String}

/-- What was read did not give a switch, and no option of its name waits for a path. -/
structure Spares (name : String) (given more : Given) (waiting : Option String) : Prop where
  kept : more.has name = true ↔ given.has name = true
  free : waiting ≠ some name

section Other

variable {option : String} (other : name ≠ option)

include other

theorem spares_waiting : Spares name given given (some option) :=
  ⟨Iff.rfl, fun same => other (Option.some.inj same).symm⟩

theorem spares_addPath {path : String}
    (read : (given.addPath option path).map (·, none) = .ok (more, waiting)) :
    Spares name given more waiting := by
  obtain ⟨next, added, same⟩ := exists_of_map_eq_ok read
  cases same
  exact ⟨(Given.has_addPath added).trans (or_iff_left other), nofun⟩

end Other

section Reading

variable (switch : IsLongSwitch forms name)

include switch

/-- No letter gives the switch. -/
theorem spares_readLetters {letters : List Char}
    (read : readLetters forms given letters = .ok (more, waiting)) :
    Spares name given more waiting := by
  induction letters generalizing given with
  | nil =>
      cases read
      exact ⟨Iff.rfl, nofun⟩
  | cons letter letters ih =>
      rw [readLetters] at read
      cases found : forms.find? (·.short = some letter) with
      | none =>
          rw [found] at read
          cases read
      | some form =>
          have lettered : form.short = some letter := by simpa using List.find?_some found
          have other : name ≠ form.long := by
            intro same
            obtain ⟨_, unlettered⟩ :=
              switch.plain form (List.mem_of_find?_eq_some found) same.symm
            cases lettered.symm.trans unlettered
          rw [found] at read
          dsimp only at read
          split at read
          · split at read
            · split at read
              · cases read
              · cases read
                exact spares_waiting other
            · exact spares_addPath other read
            · exact spares_addPath other read
          · cases added : given.addSwitch form with
            | error refusal =>
                rw [added] at read
                cases read
            | ok next =>
                rw [added] at read
                have unchanged := (Given.has_addSwitch added).trans (or_iff_left other)
                exact ⟨(ih read).kept.trans unchanged, (ih read).free⟩

theorem has_readLong {text : List Char}
    (read : readLong forms given text = .ok (more, waiting)) :
    (more.has name = true ↔ given.has name = true ∨ text = name.toList) ∧
      waiting ≠ some name := by
  rw [readLong, List.span_eq_takeWhile_dropWhile] at read
  dsimp only at read
  cases found : forms.find? (·.long.toList = text.takeWhile (· ≠ '=')) with
  | none =>
      rw [found] at read
      cases read
  | some form =>
      have spelled : form.long.toList = text.takeWhile (· ≠ '=') := by
        simpa using List.find?_some found
      rw [found] at read
      dsimp only at read
      by_cases same : name = form.long
      · obtain ⟨kind, _⟩ := switch.plain form (List.mem_of_find?_eq_some found) same.symm
        rw [kind] at read
        cases value : text.dropWhile (· ≠ '=') with
        | cons sign path =>
            rw [value] at read
            cases read
        | nil =>
            rw [value] at read
            obtain ⟨next, added, ended⟩ := exists_of_map_eq_ok read
            cases ended
            have whole : text = name.toList := by
              rw [same, spelled, ← List.append_nil (text.takeWhile _), ← value,
                List.takeWhile_append_dropWhile]
            exact ⟨iff_of_true ((Given.has_addSwitch added).mpr (.inr same)) (.inr whole), nofun⟩
      · have other : text ≠ name.toList := by
          rintro rfl
          have named := spelled.trans (takeWhile_of_unbroken switch.unbroken)
          exact same (String.toList_inj.mp named).symm
        rw [or_iff_left other]
        suffices spares : Spares name given more waiting from ⟨spares.kept, spares.free⟩
        split at read
        · split at read
          · cases read
          · cases read
            exact spares_waiting same
        · exact spares_addPath same read
        · obtain ⟨next, added, ended⟩ := exists_of_map_eq_ok read
          cases ended
          exact ⟨(Given.has_addSwitch added).trans (or_iff_left same), nofun⟩
        · cases read

theorem has_readOption {argument : String}
    (read : readOption forms given argument = .ok (more, waiting)) :
    (more.has name = true ↔ given.has name = true ∨ argument = longForm name) ∧
      waiting ≠ some name := by
  rw [readOption] at read
  have written : argument = longForm name ↔ argument.toList = '-' :: '-' :: name.toList := by
    rw [← toList_longForm, String.toList_inj]
  rw [written]
  split at read
  · rename_i text hyphens
    rw [hyphens, List.cons.injEq, List.cons.injEq, and_iff_right rfl, and_iff_right rfl]
    exact has_readLong switch read
  · rename_i letters notLong spelled
    obtain ⟨kept, free⟩ := spares_readLetters switch read
    refine ⟨kept.trans (or_iff_left ?_).symm, free⟩
    intro long
    rw [spelled, List.cons.injEq] at long
    exact notLong _ long.1 long.2
  · cases read

/-- Behind the command, the switch is given exactly by its long form, ahead of `--`. -/
theorem has_readBack {words : WordForm} {arguments : List String}
    (read : readBack forms words given arguments = .ok more) :
    more.has name = true ↔
      given.has name = true ∨ longForm name ∈ arguments.takeWhile (· ≠ "--") := by
  fun_induction readBack forms words given arguments with
  | case1 given =>
      cases read
      simp
  | case2 given rest =>
      rw [Given.has_addWords read]
      simp
  | case4 given word rest apart isWord next added ih =>
      have other := ne_longForm_of_isWord isWord name
      rw [ih read, Given.has_addWord added, mem_takeWhile_cons apart, or_iff_right other]
  | case6 given option rest apart _ next taken ih =>
      rw [ih read, (has_readOption switch taken).1, mem_takeWhile_cons apart, or_assoc]
  | case8 given option apart _ next waits taken path rest isWord full added ih =>
      have apartToo := ne_mark_of_isWord isWord
      have other := ne_longForm_of_isWord isWord name
      obtain ⟨known, free⟩ := has_readOption switch taken
      have differs : name ≠ waits := fun same => free (congrArg some same.symm)
      rw [ih read, Given.has_addPath added, or_iff_left differs, known,
        mem_takeWhile_cons apart, mem_takeWhile_cons apartToo, or_iff_right other, or_assoc]
  | case3 | case5 | case7 | case9 | case10 => cases read

end Reading

/-- No option of that name can be read if there is none. -/
theorem readOption_longForm_of_absent (absent : ∀ form ∈ forms, form.long ≠ name)
    (unbroken : '=' ∉ name.toList) :
    readOption forms given (longForm name) = .error .usage := by
  have nobody : forms.find? (·.long.toList = name.toList) = none := by
    rw [List.find?_eq_none]
    intro form member named
    exact absent form member (String.toList_inj.mp (of_decide_eq_true named))
  rw [readOption, toList_longForm]
  change readLong forms given name.toList = _
  rw [readLong, List.span_eq_takeWhile_dropWhile, takeWhile_of_unbroken unbroken]
  dsimp only
  rw [nobody]

/-- Ahead of the command stand options that can be read, with their paths. -/
theorem exists_of_readFront {arguments behind : List String} {command : String}
    (read : readFront forms given arguments = .ok (more, command, behind)) :
    ∃ before, arguments = before ++ command :: behind ∧ isWord command = true ∧
      ∀ argument ∈ before, argument ≠ "--" ∧
        (isWord argument = true ∨ ∃ known taken, readOption forms known argument = .ok taken) := by
  fun_induction readFront forms given arguments with
  | case2 given command rest isWord =>
      cases read
      exact ⟨[], rfl, isWord, nofun⟩
  | case5 given option rest _ apart next taken ih =>
      obtain ⟨before, rfl, isWord, readable⟩ := ih read
      refine ⟨option :: before, rfl, isWord, List.forall_mem_cons.mpr ⟨?_, readable⟩⟩
      exact ⟨apart, .inr ⟨given, _, taken⟩⟩
  | case7 given option _ apart next waits taken path rest pathIsWord full added ih =>
      obtain ⟨before, rfl, isWord, readable⟩ := ih read
      refine ⟨option :: path :: before, rfl, isWord, List.forall_mem_cons.mpr ⟨?_, ?_⟩⟩
      · exact ⟨apart, .inr ⟨given, _, taken⟩⟩
      · exact List.forall_mem_cons.mpr ⟨⟨ne_mark_of_isWord pathIsWord, .inl pathIsWord⟩, readable⟩
  | case1 | case3 | case4 | case6 | case8 | case9 => cases read

/-- A name that no option ahead of the command has is asked for, ahead of `--`, only behind the
command. -/
theorem mem_takeWhile_of_readFront {arguments behind : List String} {command : String}
    (absent : ∀ form ∈ forms, form.long ≠ name) (unbroken : '=' ∉ name.toList)
    (read : readFront forms given arguments = .ok (more, command, behind)) :
    longForm name ∈ arguments.takeWhile (· ≠ "--") ↔
      longForm name ∈ behind.takeWhile (· ≠ "--") := by
  obtain ⟨before, rfl, isWord, readable⟩ := exists_of_readFront read
  have unasked : longForm name ∉ before := by
    intro member
    rcases (readable _ member).2 with isWord | ⟨known, taken, read⟩
    · exact ne_longForm_of_isWord isWord name rfl
    · cases (readOption_longForm_of_absent absent unbroken).symm.trans read
  have whole : (before ++ command :: behind).takeWhile (· ≠ "--") =
      before ++ (command :: behind).takeWhile (· ≠ "--") :=
    List.takeWhile_append_of_pos fun argument member =>
      decide_eq_true (readable argument member).1
  rw [whole, List.mem_append, or_iff_right unasked, mem_takeWhile_cons (ne_mark_of_isWord isWord),
    or_iff_right (ne_longForm_of_isWord isWord name)]

/-- What a command line that can be carried out consists of. -/
theorem exists_of_parse {arguments : List String} {invocation : Invocation}
    (parsed : parse arguments = .ok invocation) :
    ∃ front command behind forms words back,
      readFront frontForms .empty arguments = .ok (front, command, behind) ∧
      backForms? command = some (forms, words) ∧
      readBack forms words .empty behind = .ok back ∧
      command? command back = some invocation.command := by
  rw [parse] at parsed
  obtain ⟨⟨front, command, behind⟩, ahead, parsed⟩ := exists_of_bind_eq_ok parsed
  dsimp only at parsed
  split at parsed
  · split at parsed <;> cases parsed
  · cases table : backForms? command with
    | none =>
        rw [table] at parsed
        cases parsed
    | some known =>
        obtain ⟨forms, words⟩ := known
        rw [table] at parsed
        obtain ⟨back, read, parsed⟩ := exists_of_bind_eq_ok parsed
        cases made : command? command back with
        | none =>
            rw [made] at parsed
            cases parsed
        | some found =>
            rw [made] at parsed
            cases parsed
            exact ⟨front, command, behind, forms, words, back, ahead, table, read, made⟩

theorem parse_eq_ok {arguments behind : List String} {front back : Given} {name : String}
    {words : WordForm} {command : Command}
    (ahead : readFront frontForms .empty arguments = .ok (front, name, behind))
    (helpless : name ≠ "help") (table : backForms? name = some (forms, words))
    (read : readBack forms words .empty behind = .ok back)
    (made : command? name back = some command) :
    parse arguments =
      .ok ⟨command, (back.path? "config").orElse fun _ => front.path? "config"⟩ := by
  rw [parse, ahead]
  change (if name = "help" then _ else _) = _
  rw [if_neg helpless, table]
  change (readBack forms words .empty behind >>= _) = _
  rw [read]
  dsimp only [bind, Except.bind]
  rw [made]
  rfl

theorem command?_eq_validate {command file : String} {strict : Bool}
    (made : command? command given = some (.validate file strict)) :
    command = "validate" ∧ given.words = [file] ∧ given.has "strict" = strict := by
  unfold command? at made
  split at made
  · cases made
  · cases made
  · cases made
  · rename_i results words
    cases made
    exact ⟨rfl, words, rfl⟩
  · cases made

/-- Results are summarised strictly exactly if `--strict` stands ahead of `--`. -/
theorem strict_iff {arguments : List String} {file : String} {strict : Bool}
    {config : Option String} (parsed : parse arguments = .ok ⟨.validate file strict, config⟩) :
    strict = true ↔ "--strict" ∈ arguments.takeWhile (· ≠ "--") := by
  obtain ⟨front, command, behind, forms, words, back, ahead, table, read, made⟩ :=
    exists_of_parse parsed
  obtain ⟨rfl, _, rfl⟩ := command?_eq_validate made
  cases table
  have unbroken : '=' ∉ "strict".toList := by decide
  have switch : IsLongSwitch (commonForms ++ [helpForm, ⟨"strict", none, .switch⟩]) "strict" :=
    ⟨by decide, unbroken⟩
  have absent : ∀ form ∈ frontForms, form.long ≠ "strict" := by decide
  have nothing : Given.empty.has "strict" ≠ true := by decide
  rw [has_readBack switch read, or_iff_right nothing,
    ← mem_takeWhile_of_readFront absent unbroken ahead]
  rfl

end TestImpact.CommandLine
