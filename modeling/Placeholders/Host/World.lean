/-
A model of a system: a tree of files, an environment and the streams. Paths are
followed from the root or from the working directory, part by part, through
directories only. The streams always work: the input is there as a whole, and an
output is added to what was written before.
-/
import Placeholders.Host.Basic

namespace Placeholders

/-- A place in the tree, as the names on the way from the root. -/
abbrev Location := List Text

/-- Files by location, and the directories that are there without files in them. -/
structure FileTree where
  files : List (Location × List UInt8)
  directories : List Location
deriving DecidableEq, Repr

namespace FileTree

/-- The content of the file at a location. -/
def file? (tree : FileTree) (l : Location) : Option (List UInt8) := tree.files.lookup l

/-- Is there a directory? Each directory on the way to a file is there. -/
def isDirectory (tree : FileTree) (l : Location) : Bool :=
  l.isEmpty || tree.directories.any l.isPrefixOf
    || tree.files.any fun (f, _) => f != l && l.isPrefixOf f

/-- The greatest length of a name in bytes. -/
def maxName : Nat := 255

/-- The length in bytes that no path reaches. -/
def pathLimit : Nat := 4096

/-- Follows the parts of a path. Each part but the last has to lead to a directory. -/
def follow (tree : FileTree) (l : Location) : List Text → Except FileError Location
  | [] => .ok l
  | part :: parts =>
    if !tree.isDirectory l then
      .error (if (tree.file? l).isSome then .notDirectory else .missing)
    else if part = [] ∨ part = ['.'] then tree.follow l parts
    else if part = ['.', '.'] then tree.follow l.dropLast parts
    else if maxName < part.byteLength then .error .nameTooLong
    else tree.follow (l ++ [part]) parts

/-- Refuses what is no path. -/
def checkPath (path : Text) : Except FileError Unit :=
  if path.any fun c => c.toNat = 0 then .error .nulInName
  else if path.isEmpty then .error .missing
  else if pathLimit ≤ path.byteLength then .error .nameTooLong
  else .ok ()

/-- Where a path starts. -/
def startOf (working : Location) (path : Text) : Location := if path.head? == some '/' then [] else working

/-- The location of a path, seen from a working directory. -/
def locate (tree : FileTree) (working : Location) (path : Text) : Except FileError Location := do
  checkPath path
  tree.follow (startOf working path) (path.splitOn '/')

/-- The content of the file at a path. -/
def read (tree : FileTree) (working : Location) (path : Text) : Except FileError (List UInt8) := do
  let l ← tree.locate working path
  if tree.isDirectory l then throw .isDirectory
  match tree.file? l with
  | some bytes => return bytes
  | none => throw .missing

/-- Does the path lead to a file or a directory? -/
def pathExists (tree : FileTree) (working : Location) (path : Text) : Bool :=
  match tree.locate working path with
  | .ok l => tree.isDirectory l || (tree.file? l).isSome
  | .error _ => false

/-- The tree with another content of the file at a location. -/
def set (tree : FileTree) (l : Location) (bytes : List UInt8) : FileTree :=
  { tree with files := (l, bytes) :: tree.files.filter fun f => f.1 != l }

theorem file?_set_self (tree : FileTree) (l : Location) (bytes : List UInt8) :
    (tree.set l bytes).file? l = some bytes := by
  simp [file?, set]

theorem file?_set_other (tree : FileTree) {l k : Location} (bytes : List UInt8) (h : k ≠ l) :
    (tree.set l bytes).file? k = tree.file? k := by
  have hk : (k == l) = false := by simpa using h
  simp only [file?, set, List.lookup_cons, hk]
  induction tree.files with
  | nil => rfl
  | cons f fs ih =>
    obtain ⟨j, content⟩ := f
    by_cases hj : j = l
    · subst hj
      rw [List.filter_cons_of_neg (by simp), ih, List.lookup_cons, hk]
    · rw [List.filter_cons_of_pos (by simpa using hj), List.lookup_cons, List.lookup_cons, ih]

/-- Writes the file at a path; its directory has to be there. A path that ends in a
slash names a directory, whatever its last name is. -/
def write (tree : FileTree) (working : Location) (path : Text) (bytes : List UInt8) :
    Except FileError FileTree := do
  if path.getLast? == some '/' then
    checkPath path
    let trimmed := (path.reverse.dropWhile (· == '/')).reverse
    let _ ← tree.follow (startOf working path) ((trimmed.splitOn '/').dropLast ++ [['.']])
    throw .isDirectory
  let l ← tree.locate working path
  if tree.isDirectory l then throw .isDirectory
  return tree.set l bytes

end FileTree

/-- A system in one moment. -/
structure World where
  files : FileTree
  working : Location
  homeDirectory : Option Text
  environment : List (Text × Text)
  input : List UInt8 := []
  output : Text := []
  reported : Text := []

namespace World

/-- The model as a host: actions change the world. -/
def host : Host (StateM World) where
  readFile path := fun w => (w.files.read w.working path, w)
  pathExists path := fun w => (w.files.pathExists w.working path, w)
  writeFile path t := fun w =>
    match w.files.write w.working path t.utf8 with
    | .ok files => (.ok (), { w with files })
    | .error e => (.error e, w)
  environmentVariable name := fun w => (w.environment.lookup name, w)
  home := fun w => (w.homeDirectory, w)
  input := fun w => (w.input, w)
  print t := fun w => ((), { w with output := w.output ++ t })
  report t := fun w => ((), { w with reported := w.reported ++ t })

end World
end Placeholders
