/-
Reading the words of the command line. A word is an option by its hyphens, a
command by its name, and else a pattern; after two hyphens nothing is an option
any more. An option waits for its value, and the value is checked only when the
next option or pattern is taken up, or at the end: the first error in that order
is reported.
-/
import Placeholders.CommandLine.Option

namespace Placeholders.CommandLine

/-- What the words ask for instead of a command. -/
inductive Refusal
  | invalidValue
  | unknownArgument
  | tooManyValues
  | argumentConflict
  | invalidCommand
  | missingCommand
  | nothingGiven
  | help (command : Option CommandName)
  | version
deriving DecidableEq, Repr

/-- The options given at a level with their values, in order, and the pattern. -/
structure Given where
  options : List (Opt × Text) := []
  pattern : Option Text := none
deriving DecidableEq, Repr

namespace Given

/-- Was the option given? -/
def has (g : Given) (o : Opt) : Bool := g.options.any fun p => p.1 == o

/-- The values of an option. -/
def values (g : Given) (o : Opt) : List Text :=
  (g.options.filter fun p => p.1 == o).map Prod.snd

/-- The value of an option that is given at most once. -/
def value? (g : Given) (o : Opt) : Option Text := (g.values o).head?

/-- Adds an option with its value. -/
def add (g : Given) (o : Opt) (value : Text) : Except Refusal Given :=
  if !o.repeats && g.has o then .error .argumentConflict
  else if o.takes = .path && value.isEmpty then .error .invalidValue
  else .ok { g with options := g.options ++ [(o, value)] }

end Given

/-- What has been read at a level. The option that waits has its value, or not yet. -/
structure State where
  given : Given := {}
  waiting : Option (Opt × Option Text) := none
  patternsOnly : Bool := false

namespace State

/-- Takes the waiting option up. -/
def settle (s : State) : Except Refusal State :=
  match s.waiting with
  | none => .ok s
  | some (_, none) => .error .invalidValue
  | some (o, some value) => do
    return { s with given := ← s.given.add o value, waiting := none }

/-- Takes a flag up. Help and version end the reading. -/
def flag (level : Option CommandName) (s : State) (o : Opt) : Except Refusal State := do
  let s ← s.settle
  match o with
  | .help => throw (.help level)
  | .version => throw .version
  | o => return { s with given := ← s.given.add o [] }

/-- Takes an option up with a value that stands in the same word. -/
def attached (s : State) (o : Opt) (value : Text) : Except Refusal State := do
  let s ← s.settle
  return { s with given := ← s.given.add o value }

/-- Lets an option wait for its value. -/
def await (s : State) (o : Opt) : Except Refusal State := do
  return { ← s.settle with waiting := some (o, none) }

/-- The option that the next word is the value of. -/
def wanting? (s : State) : Option Opt :=
  match s.waiting with
  | some (o, none) => if s.patternsOnly then none else some o
  | _ => none

end State

/-- A word, by its hyphens. -/
inductive Word
  | separator
  | long (name : Text) (value : Option Text)
  | short (letters : Text)
  | plain
deriving DecidableEq, Repr

/-- Tells a word by its hyphens; a single hyphen is no option. -/
def Word.of : Text → Word
  | ['-', '-'] => .separator
  | '-' :: '-' :: r =>
    match Text.cutAt '=' r with
    | some (name, value) => .long name (some value)
    | none => .long r none
  | '-' :: c :: r => .short (c :: r)
  | _ => .plain

/-- A word with two hyphens. -/
def readLong (level : Option CommandName) (s : State) (name : Text) (value : Option Text) :
    Except Refusal State :=
  match (options level).find? fun o => o.long == name with
  | none => .error .unknownArgument
  | some o =>
    match o.takes, value with
    | .nothing, none => s.flag level o
    | .nothing, some _ => .error .tooManyValues
    | _, some value => s.attached o value
    | _, none => s.await o

/-- The letters of a word with one hyphen. The rest of the word after an option that
takes a value is the value, with or without an equals sign before it. -/
def readShort (level : Option CommandName) (s : State) : Text → Except Refusal State
  | [] => .ok s
  | c :: r =>
    match (options level).find? fun o => o.short == some c with
    | none => .error .unknownArgument
    | some o =>
      if o.takes = .nothing then do readShort level (← s.flag level o) r
      else
        match r with
        | [] => s.await o
        | '=' :: value => s.attached o value
        | value => s.attached o value

/-- A word that is neither option nor command. -/
def readPattern (level : Option CommandName) (s : State) (w : Text) : Except Refusal State :=
  if takesPattern level && s.given.pattern.isNone then do
    let s ← s.settle
    return { s with given := { s.given with pattern := some w } }
  else if level.isSome then .error .unknownArgument
  else if s.patternsOnly && ((CommandName.ofWord? w).isSome || w == "help".toList) then
    .error .unknownArgument
  else .error .invalidCommand

/-- The command that help is asked for. -/
def readHelp : List Text → Refusal
  | [] => .help none
  | [w] =>
    match CommandName.ofWord? w with
    | some n => .help (some n)
    | none => if w == "help".toList then .help none else .invalidCommand
  | _ => .invalidCommand

/-- Reads the words of a level: up to the command, which only the first level has,
or to the end. -/
def readLevel (level : Option CommandName) (s : State) :
    List Text → Except Refusal (State × Option (CommandName × List Text))
  | [] => .ok (s, none)
  | w :: ws =>
    if s.patternsOnly then do readLevel level (← readPattern level s w) ws
    else if level.isNone && s.wanting?.isNone && w == "help".toList then .error (readHelp ws)
    else
      match if level.isNone && s.wanting?.isNone then CommandName.ofWord? w else none with
      | some n => .ok (s, some (n, ws))
      | none =>
        match Word.of w with
        | .separator => readLevel level { s with patternsOnly := true } ws
        | .long name value => do readLevel level (← readLong level s name value) ws
        | .short letters => do readLevel level (← readShort level s letters) ws
        | .plain =>
          match s.wanting? with
          | some o => readLevel level { s with waiting := some (o, some w) } ws
          | none => do readLevel level (← readPattern level s w) ws

/-- Reads a command's own words. A pattern and a file for it exclude each other. -/
def readCommand (n : CommandName) (ws : List Text) : Except Refusal Given := do
  let (s, _) ← readLevel (some n) {} ws
  let s ← s.settle
  if s.given.pattern.isSome && s.given.has .file then throw .argumentConflict
  return s.given

/-- Where a pattern comes from when it is not read from the standard input. -/
structure PatternSource where
  pattern : Option Text := none
  file : Option Text := none
deriving DecidableEq, Repr

/-- What is asked of the render command. -/
structure RenderRequest where
  source : PatternSource := {}
  vars : List Text := []
  params : Option Text := none
  strict : Bool := false
  provider : Option Text := none
  output : Option Text := none
  report : Bool := false
deriving DecidableEq, Repr

/-- A command with its options. -/
inductive Command
  | render (request : RenderRequest)
  | functions (provider : Option Text)
  | inspect (source : PatternSource) (json : Bool)
deriving DecidableEq, Repr

/-- The command line taken apart. -/
structure Invocation where
  command : Command
  verbose : Bool
  noColor : Bool
  config : Option Text
deriving DecidableEq, Repr

/-- Where the pattern comes from. -/
def Given.source (g : Given) : PatternSource := ⟨g.pattern, g.value? .file⟩

/-- The command that was given. -/
def Given.command (g : Given) : CommandName → Command
  | .render =>
    .render {
      source := g.source
      vars := g.values .var
      params := g.value? .params
      strict := g.has .strict
      provider := g.value? .provider
      output := g.value? .output
      report := g.has .report }
  | .functions => .functions (g.value? .provider)
  | .inspect => .inspect g.source (g.has .json)

/-- Takes the words after the program's name apart. The options that every level has
may stand before or after the command; what stands after it counts more. -/
def parse (ws : List Text) : Except Refusal Invocation := do
  let (s, rest) ← readLevel none {} ws
  match rest with
  | none =>
    let s ← s.settle
    throw (if s.given.options.isEmpty then .nothingGiven else .missingCommand)
  | some (n, ws) =>
    let own ← readCommand n ws
    let s ← s.settle
    return {
      command := own.command n
      verbose := s.given.has .verbose || own.has .verbose
      noColor := s.given.has .noColor || own.has .noColor
      config := (own.value? .config).or (s.given.value? .config) }

end Placeholders.CommandLine
