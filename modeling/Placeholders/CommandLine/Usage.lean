/-
What the program says about its own command line: a help text for each level, and
for words that cannot be taken apart the reason and the shortest form of usage.
-/
import Placeholders.CommandLine.Parse

namespace Placeholders.CommandLine

/-- What an option is for. -/
def Opt.about : Opt → Text
  | verbose => "Enable verbose output".toList
  | config => "Path to configuration file".toList
  | noColor => "Disable colored output".toList
  | help => "Print help".toList
  | version => "Print version".toList
  | file => "Read the pattern from a file".toList
  | var => "Set a parameter (key=value)".toList
  | params => "YAML or JSON file of parameters".toList
  | strict => "Fail on the first missing key or pipeline error".toList
  | provider => "Function provider to resolve functions against".toList
  | output => "Write the result to a file instead of stdout".toList
  | report => "Print tolerated errors to stderr".toList
  | json => "Emit JSON instead of text".toList

/-- What a command does. -/
def CommandName.about : CommandName → Text
  | render => "Substitute placeholders in a pattern and print the result".toList
  | functions => "List the functions a provider offers".toList
  | inspect => "Show how a pattern is split into literals, keys, and pipeline stages".toList

/-- What the program or a command does. -/
def aboutLevel : Option CommandName → Text
  | none =>
    "Substitute $\x7bkey | fn args\x7d placeholders using named string-function pipelines".toList
  | some n => n.about

/-- The spelling of an option: its letter, its name and a place for its value. -/
def Opt.spelling (o : Opt) : Text :=
  let letter := match o.short with
    | some c => ['-', c, ',', ' ']
    | none => "    ".toList
  let place := match o.takes with
    | .nothing => []
    | .text => " <TEXT>".toList
    | .path => " <PATH>".toList
  letter ++ '-' :: '-' :: (o.long ++ place)

/-- A line of two columns. -/
def helpLine (width : Nat) (left right : Text) : Text :=
  "  ".toList ++ left ++ List.replicate (width + 2 - left.length) ' ' ++ right ++ ['\n']

/-- The line that shows the order of words. -/
def usageLine (level : Option CommandName) : Text :=
  "Usage: substitutor ".toList
    ++ (match level with
      | none => "[OPTIONS] <COMMAND>".toList
      | some n => n.word ++ " [OPTIONS]".toList)
    ++ (if takesPattern level then " [PATTERN]".toList else [])
    ++ ['\n']

/-- The list of commands. -/
def commandHelp : Text :=
  "\nCommands:\n".toList
    ++ CommandName.all.flatMap (fun n => helpLine 9 n.word n.about)
    ++ helpLine 9 "help".toList "Print this message or the help of a command".toList

/-- The help text of a level. -/
def helpText (level : Option CommandName) : Text :=
  let width := ((options level).map fun o => o.spelling.length).foldl max 0
  aboutLevel level ++ "\n\n".toList ++ usageLine level
    ++ (if level.isNone then commandHelp else [])
    ++ "\nOptions:\n".toList
    ++ (options level).flatMap fun o => helpLine width o.spelling o.about

/-- Why words cannot be taken apart. -/
def Refusal.reason : Refusal → Text
  | invalidValue => "a value is required and may not be empty for an option".toList
  | unknownArgument => "unexpected argument".toList
  | tooManyValues => "unexpected value for an option".toList
  | argumentConflict => "arguments that cannot be used together, or more than once".toList
  | invalidCommand => "unrecognized command".toList
  | missingCommand | nothingGiven => "a command is required but was not provided".toList
  | help _ => "help was asked for".toList
  | version => "the version was asked for".toList

/-- The text for a refusal. -/
def Refusal.usage : Refusal → Text
  | help level => helpText level
  | nothingGiven => helpText none
  | refusal =>
    "error: ".toList ++ refusal.reason ++ "\n\n".toList ++ usageLine none
      ++ "\nFor more information, try '--help'.\n".toList

end Placeholders.CommandLine
