/-
Module: Formicary.Console.Directory
Purpose: Running a program in a directory that is a value.
Main exports: Directory, Directory.follow, Directory.read, Directory.write, Program.runIn
-/
import Formicary.Console.Program

namespace Formicary

/-- A directory without subdirectories: the contents of each file under its name. -/
structure Directory where
  files : List (String × ByteArray)

namespace Directory

/-- The contents of a file. -/
def get? (d : Directory) (name : String) : Option ByteArray := d.files.lookup name

/-- The text of a file, if there is such a file and it holds text. -/
def text? (d : Directory) (name : String) : Option String := (d.get? name).bind String.fromUTF8?

/-- The directory with a text added or put in place of a file. -/
def insert (d : Directory) (name text : String) : Directory :=
  { files := (name, text.toUTF8) :: d.files.filter fun file => file.1 != name }

/-! ### Paths

A path is followed name by name. Nothing is known of the directories around this one but that they
are there: no name leads anywhere from them, and what is written to them is out of sight.
-/

/-- Where following a path leads. -/
inductive Location where
  /-- The directory itself. -/
  | here
  /-- A directory that is not this one. -/
  | elsewhere
  /-- A file of the directory. -/
  | file (name : String)
deriving DecidableEq, Repr

/-- The most bytes that a name may have. -/
def maxName : Nat := 255

/-- The most bytes that a path may have. -/
def maxPath : Nat := 4095

/-- Whether a name stands for a directory wherever it is met. -/
def isDots (name : String) : Bool := name == "." || name == ".."

/-- Follow one name. -/
def step (d : Directory) (l : Location) (name : String) : Except FileFault Location :=
  match l with
  | .file _ => .error .notDirectory
  | l =>
    if name = "." then .ok l
    else if name = ".." then .ok .elsewhere
    else if maxName < name.utf8ByteSize then .error .nameTooLong
    else if l = .here && (d.get? name).isSome then .ok (.file name)
    else .error .notFound

/-- Follow some names. -/
def follow (d : Directory) (start : Location) (names : List String) : Except FileFault Location :=
  names.foldlM d.step start

/-- Where a path starts, and the names in it. A slash at the end asks for a directory, as a dot
does. -/
def splitPath (path : String) : Except FileFault (Location × List String) :=
  if path.isEmpty then .error .notFound
  else if maxPath < path.utf8ByteSize then .error .nameTooLong
  else
    let cs := path.toList
    let names := ((cs.splitOn '/').filter fun name => !name.isEmpty).map String.ofList
    let start := if cs.head? = some '/' then .elsewhere else .here
    .ok (start, if cs.getLast? = some '/' then names ++ ["."] else names)

/-- Read a text. -/
def read (d : Directory) (path : String) : Except FileFault String := do
  let (start, names) ← splitPath path
  match ← d.follow start names with
  | .file name =>
    match d.text? name with
    | some text => return text
    | none => .error .notText
  | _ => .error .isDirectory

/-- Write a text. The last name of the path need not be there yet. -/
def write (d : Directory) (path text : String) : Except FileFault Directory := do
  let (start, names) ← splitPath path
  let place ← d.follow start names.dropLast
  let name := names.getLastD "."
  if isDots name then .error .isDirectory
  else if maxName < name.utf8ByteSize then .error .nameTooLong
  else match place with
    | .here => return d.insert name text
    | .elsewhere => return d
    | .file _ => .error .notDirectory

end Directory

/-- What a program leaves behind. -/
structure Program.Trail where
  printed : String
  directory : Directory

/-- Run a program in a directory. The drawn seed is given beforehand. -/
def Program.runIn {α : Type} (seed : Nat) : Program α → Trail → α × Trail
  | .done a, t => (a, t)
  | .print text next, t => next.runIn seed { t with printed := t.printed ++ text }
  | .readFile path next, t => (next (t.directory.read path)).runIn seed t
  | .writeFile path text next, t =>
    match t.directory.write path text with
    | .ok directory => (next (.ok ())).runIn seed { t with directory }
    | .error fault => (next (.error fault)).runIn seed t
  | .drawSeed next, t => (next seed).runIn seed t

end Formicary
