/-
The options of the command line and the commands they belong to.
-/
import Placeholders.Text.Basic

namespace Placeholders.CommandLine

/-- An option. -/
inductive Opt
  | verbose
  | config
  | noColor
  | help
  | version
  | file
  | var
  | params
  | strict
  | provider
  | output
  | report
  | json
deriving DecidableEq, Repr

/-- What an option takes: nothing, any text, or a path, which is not empty. -/
inductive Takes
  | nothing
  | text
  | path
deriving DecidableEq, Repr

namespace Opt

/-- The name after two hyphens. -/
def long : Opt → Text
  | verbose => "verbose".toList
  | config => "config".toList
  | noColor => "no-color".toList
  | help => "help".toList
  | version => "version".toList
  | file => "file".toList
  | var => "var".toList
  | params => "params".toList
  | strict => "strict".toList
  | provider => "provider".toList
  | output => "output".toList
  | report => "report".toList
  | json => "json".toList

/-- The letter after one hyphen. -/
def short : Opt → Option Char
  | verbose => some 'v'
  | config => some 'c'
  | help => some 'h'
  | version => some 'V'
  | file => some 'f'
  | var => some 'D'
  | output => some 'o'
  | _ => none

/-- What the option takes. -/
def takes : Opt → Takes
  | config | file | params | output => .path
  | var | provider => .text
  | _ => .nothing

/-- May the option be given more than once? -/
def repeats : Opt → Bool
  | var => true
  | _ => false

end Opt

/-- The name of a command. -/
inductive CommandName
  | render
  | functions
  | inspect
deriving DecidableEq, Repr

namespace CommandName

/-- The word for a command. -/
def word : CommandName → Text
  | render => "render".toList
  | functions => "functions".toList
  | inspect => "inspect".toList

/-- The commands in the order of the help text. -/
def all : List CommandName := [render, functions, inspect]

/-- The command of a word. -/
def ofWord? (t : Text) : Option CommandName := all.find? fun n => n.word == t

end CommandName

/-- The options that every level has. -/
def everywhere : List Opt := [.verbose, .config, .noColor, .help]

/-- The options at a level: before the command, or after it. -/
def options : Option CommandName → List Opt
  | none => everywhere ++ [.version]
  | some .render => [.file, .var, .params, .strict, .provider, .output, .report] ++ everywhere
  | some .functions => [.provider] ++ everywhere
  | some .inspect => [.file, .json] ++ everywhere

/-- Does the level take a pattern? -/
def takesPattern : Option CommandName → Bool
  | some .render | some .inspect => true
  | _ => false

end Placeholders.CommandLine
