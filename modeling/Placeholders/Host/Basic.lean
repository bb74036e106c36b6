/-
What a program needs from the system it runs on: files, the environment and the
three streams. A program is written for any such host, so that it can run on the
system itself and on a model of it.

A file may be refused, and the action gives the reason. The streams are assumed to
work: all of the standard input can be read, and what is written to the other two
arrives. So `input`, `print` and `report` have no error, and a system whose streams
fail (a closed pipe, a full device) is no host in this sense.
-/
import Placeholders.Text.Utf8

namespace Placeholders

/-- Why a file cannot be read or written. -/
inductive FileError
  | missing
  | isDirectory
  | notDirectory
  | nameTooLong
  | nulInName
  | notText
  | other (message : Text)
deriving DecidableEq, Repr

/-- The words of the system for an error. -/
def FileError.message : FileError → Text
  | missing => "No such file or directory (os error 2)".toList
  | isDirectory => "Is a directory (os error 21)".toList
  | notDirectory => "Not a directory (os error 20)".toList
  | nameTooLong => "File name too long (os error 36)".toList
  | nulInName => "file name contained an unexpected NUL byte".toList
  | notText => "stream did not contain valid UTF-8".toList
  | other message => message

/-- Files, environment and streams, as actions. -/
structure Host (m : Type → Type) where
  /-- The bytes of a file. -/
  readFile : Text → m (Except FileError (List UInt8))
  /-- Is there a file or a directory? -/
  pathExists : Text → m Bool
  /-- Replaces the content of a file, which is made if need be. -/
  writeFile : Text → Text → m (Except FileError Unit)
  /-- A variable of the environment. -/
  environmentVariable : Text → m (Option Text)
  /-- The home directory. -/
  home : m (Option Text)
  /-- All of the standard input. -/
  input : m (List UInt8)
  /-- Writes to the standard output. -/
  print : Text → m Unit
  /-- Writes to the standard error stream. -/
  report : Text → m Unit

/-- Bytes as text. -/
def textOfBytes (bytes : List UInt8) : Except FileError Text :=
  (Text.ofUtf8 bytes).mapError fun _ => .notText

namespace Host

/-- The text of a file. -/
def readText {m : Type → Type} [Monad m] (host : Host m) (path : Text) :
    m (Except FileError Text) := do
  return (← host.readFile path).bind textOfBytes

end Host

namespace Path

/-- The last part of a path, if it names something. -/
def fileName? (path : Text) : Option Text :=
  match ((path.splitOn '/').filter fun part => part ≠ [] ∧ part ≠ ['.']).getLast? with
  | some ['.', '.'] => none
  | part => part

/-- What follows the last point of the file name, unless the name starts there. -/
def extension? (path : Text) : Option Text := do
  let reversed := (← fileName? path).reverse
  if !reversed.contains '.' then none
  let stem := (reversed.dropWhile (· != '.')).tail
  if stem.isEmpty then none else return (reversed.takeWhile (· != '.')).reverse

/-- A part below a path. -/
def below (path part : Text) : Text :=
  if path.isEmpty then part
  else if path.getLast? == some '/' then path ++ part
  else path ++ '/' :: part

end Path
end Placeholders
