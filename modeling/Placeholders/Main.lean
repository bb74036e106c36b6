/-
The program on the system it runs on: files, environment and streams of the
process stand behind the host that the commands are written for.
-/
import Placeholders.Program.Run
import Placeholders.CommandLine.Usage

namespace Placeholders

/-- The library's word for an error of the system. -/
def FileError.ofSystem : IO.Error → FileError
  | .noFileOrDirectory .. => .missing
  | .inappropriateType _ 20 _ => .notDirectory
  | .inappropriateType _ 21 _ => .isDirectory
  | e => .other (toString e).toList

/-- Runs an action on a file. -/
def onFile {α : Type} (action : IO α) : IO (Except FileError α) := do
  try
    return .ok (← action)
  catch e =>
    return .error (.ofSystem e)

/-- All bytes of a stream. -/
partial def readAll (stream : IO.FS.Stream) (before : ByteArray) : IO ByteArray := do
  let bytes ← stream.read 65536
  if bytes.isEmpty then return before
  readAll stream (before ++ bytes)

/-- The name of a variable that is set and not empty, with its value. -/
def setVariable? (name : String) : IO (Option Text) := do
  return ((← IO.getEnv name).map String.toList).filter fun value => !value.isEmpty

/-- The system of this process. -/
def system : Host IO where
  readFile path := do
    return (← onFile (IO.FS.readBinFile (String.ofList path))).map ByteArray.toList
  pathExists path := do
    match ← onFile (IO.FS.Handle.mk (String.ofList path) .read) with
    | .ok _ => return true
    | .error e => return !(e == .missing || e == .notDirectory)
  writeFile path t := onFile (IO.FS.writeFile (String.ofList path) (String.ofList t))
  environmentVariable name := return (← IO.getEnv (String.ofList name)).map String.toList
  home := setVariable? "HOME"
  input := return (← readAll (← IO.getStdin) .empty).toList
  print t := do
    let stream ← IO.getStdout
    stream.putStr (String.ofList t)
    stream.flush
  report t := do (← IO.getStderr).putStr (String.ofList t)

end Placeholders

/-- Runs the program on its arguments. -/
def main (args : List String) : IO UInt32 := do
  let exit ← Placeholders.system.main Placeholders.CommandLine.Refusal.usage
    (args.map String.toList)
  return exit.code.toUInt32
