/-!
# Arguments

The command line is a command with options around it. Options that concern every
command may stand before the command or after it; each may be given once on each
side, and the later side counts. Reading goes from left to right and stops at the
first argument that cannot be used, or at one that asks for help or the version.
-/

namespace TestImpact.CommandLine

/-- Why no command is carried out. -/
inductive Refusal where
  | usage
  | help
  | version
  deriving DecidableEq, Repr

/-- What an option does. -/
inductive OptionKind where
  /-- It is given or not. -/
  | switch
  /-- It takes a path, which may not be empty. -/
  | path
  /-- It asks for help. -/
  | help
  /-- It asks for the version. -/
  | version
  deriving DecidableEq, Repr

/-- An option with its names. -/
structure OptionForm where
  long : String
  short : Option Char
  kind : OptionKind
  deriving DecidableEq, Repr

/-- Which words a command takes. -/
structure WordForm where
  /-- How many words it takes at most, if there is a limit. -/
  limit : Option Nat
  /-- Whether a word may be empty. A word that is a path may not. -/
  allowsEmpty : Bool
  deriving DecidableEq, Repr

/-- What one side of the command line gives. -/
structure Given where
  switches : List String
  paths : List (String × String)
  words : List String
  deriving DecidableEq, Repr

namespace Given

def empty : Given := ⟨[], [], []⟩

def has (given : Given) (name : String) : Bool :=
  name ∈ given.switches || (given.paths.lookup name).isSome

def path? (given : Given) (name : String) : Option String := given.paths.lookup name

def addPath (given : Given) (name path : String) : Except Refusal Given :=
  if path = "" ∨ given.has name then .error .usage
  else .ok { given with paths := (name, path) :: given.paths }

def addSwitch (given : Given) (form : OptionForm) : Except Refusal Given :=
  match form.kind with
  | .help => .error .help
  | .version => .error .version
  | .path => .error .usage
  | .switch =>
      if given.has form.long then .error .usage
      else .ok { given with switches := form.long :: given.switches }

def addWord (form : WordForm) (given : Given) (word : String) : Except Refusal Given :=
  if form.limit.any (· ≤ given.words.length) ∨ (word = "" ∧ !form.allowsEmpty) then .error .usage
  else .ok { given with words := given.words ++ [word] }

end Given

def isWord (argument : String) : Bool :=
  argument = "-" || argument.toList.head? ≠ some '-'

/-- Reads the letters of short options. Gives the option that still waits for its
path, if the last one does. -/
def readLetters (forms : List OptionForm) (given : Given) :
    List Char → Except Refusal (Given × Option String)
  | [] => .ok (given, none)
  | letter :: rest =>
      match forms.find? (·.short = some letter) with
      | none => .error .usage
      | some form =>
          if form.kind = .path then
            match rest with
            | [] => if given.has form.long then .error .usage else .ok (given, some form.long)
            | '=' :: path => (given.addPath form.long (String.ofList path)).map (·, none)
            | path => (given.addPath form.long (String.ofList path)).map (·, none)
          else
            match given.addSwitch form with
            | .ok more => readLetters forms more rest
            | .error refusal => .error refusal

/-- Reads a long option. Gives the option if it still waits for its path. -/
def readLong (forms : List OptionForm) (given : Given) (text : List Char) :
    Except Refusal (Given × Option String) :=
  let (name, value) := text.span (· ≠ '=')
  match forms.find? (·.long.toList = name) with
  | none => .error .usage
  | some form =>
      match form.kind, value with
      | .path, [] => if given.has form.long then .error .usage else .ok (given, some form.long)
      | .path, _ :: path => (given.addPath form.long (String.ofList path)).map (·, none)
      | _, [] => (given.addSwitch form).map (·, none)
      | _, _ :: _ => .error .usage

def readOption (forms : List OptionForm) (given : Given) (argument : String) :
    Except Refusal (Given × Option String) :=
  match argument.toList with
  | '-' :: '-' :: text => readLong forms given text
  | _ :: letters => readLetters forms given letters
  | [] => .error .usage

/-- Reads the arguments before the command, and gives the command with the
arguments behind it. -/
def readFront (forms : List OptionForm) (given : Given) :
    List String → Except Refusal (Given × String × List String)
  | [] => .error .usage
  | argument :: rest =>
      if isWord argument then .ok (given, argument, rest)
      else if argument = "--" then .error .usage
      else
        match readOption forms given argument with
        | .error refusal => .error refusal
        | .ok (more, none) => readFront forms more rest
        | .ok (more, some name) =>
            match rest with
            | [] => .error .usage
            | path :: behind =>
                if isWord path then
                  match more.addPath name path with
                  | .ok next => readFront forms next behind
                  | .error refusal => .error refusal
                else .error .usage

def readBack (forms : List OptionForm) (words : WordForm) (given : Given) :
    List String → Except Refusal Given
  | [] => .ok given
  | argument :: rest =>
      if argument = "--" then rest.foldlM (Given.addWord words) given
      else if isWord argument then
        match given.addWord words argument with
        | .error refusal => .error refusal
        | .ok more => readBack forms words more rest
      else
        match readOption forms given argument with
        | .error refusal => .error refusal
        | .ok (more, none) => readBack forms words more rest
        | .ok (more, some name) =>
            match rest with
            | [] => .error .usage
            | path :: behind =>
                if isWord path then
                  match more.addPath name path with
                  | .ok next => readBack forms words next behind
                  | .error refusal => .error refusal
                else .error .usage

/-- What is to be done. -/
inductive Command where
  /-- Builds the impact of changed files. -/
  | affected (files : List String) (project : String) (graph : Option String)
  /-- Lists what a test imports. -/
  | imports (test project : String)
  /-- Lists the languages. -/
  | languages
  /-- Summarises results. -/
  | validate (results : String) (strict : Bool)
  deriving DecidableEq, Repr

/-- A command with the configuration it is carried out under. -/
structure Invocation where
  command : Command
  config : Option String
  deriving DecidableEq, Repr

def helpForm : OptionForm := ⟨"help", some 'h', .help⟩

def commonForms : List OptionForm :=
  [⟨"verbose", some 'v', .switch⟩, ⟨"quiet", none, .switch⟩, ⟨"config", none, .path⟩]

def frontForms : List OptionForm :=
  commonForms ++ [helpForm, ⟨"version", some 'V', .version⟩]

def projectForm : OptionForm := ⟨"project", some 'p', .path⟩

def backForms? : String → Option (List OptionForm × WordForm)
  | "affected" =>
      some (commonForms ++ [helpForm, projectForm, ⟨"graph", none, .path⟩], ⟨none, true⟩)
  | "imports" => some (commonForms ++ [helpForm, projectForm], ⟨some 1, true⟩)
  | "languages" => some (commonForms ++ [helpForm], ⟨some 0, true⟩)
  | "validate" =>
      some (commonForms ++ [helpForm, ⟨"strict", none, .switch⟩], ⟨some 1, false⟩)
  | _ => none

def command? (name : String) (given : Given) : Option Command :=
  let project := (given.path? "project").getD "."
  match name, given.words with
  | "affected", first :: rest =>
      some (.affected (first :: rest) project (given.path? "graph"))
  | "imports", [test] => some (.imports test project)
  | "languages", [] => some .languages
  | "validate", [results] => some (.validate results (given.has "strict"))
  | _, _ => none

def parse (arguments : List String) : Except Refusal Invocation := do
  let (front, name, behind) ← readFront frontForms .empty arguments
  if name = "help" then
    match behind with
    | [] => .error .help
    | [topic] =>
        .error (if topic = "help" ∨ (backForms? topic).isSome then .help else .usage)
    | _ => .error .usage
  else
    match backForms? name with
    | none => .error .usage
    | some (forms, words) =>
        let back ← readBack forms words .empty behind
        match command? name back with
        | none => .error .usage
        | some command =>
            return ⟨command, (back.path? "config").orElse fun _ => front.path? "config"⟩

end TestImpact.CommandLine
