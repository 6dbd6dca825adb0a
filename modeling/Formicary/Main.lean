/-
Module: Formicary.Main
Purpose: Running the programs in the surroundings of a process.
Main exports: main
-/
import Formicary.Console.League
import Formicary.Console.War

namespace Formicary

/-- Why the system cannot read or write a file. -/
def fileFault : IO.Error → FileFault
  | .noFileOrDirectory .. => .notFound
  | .inappropriateType _ 20 _ => .notDirectory
  | .inappropriateType _ 21 _ => .isDirectory
  | .invalidArgument _ 36 _ => .nameTooLong
  | e => .other (toString e)

/-- Read a text from a file. -/
def readText (path : String) : IO (Except FileFault String) := do
  try
    let bytes ← IO.FS.readBinFile path
    match String.fromUTF8? bytes with
    | some text => return .ok text
    | none => return .error .notText
  catch e => return .error (fileFault e)

/-- Write a text to a file. -/
def writeText (path text : String) : IO (Except FileFault Unit) := do
  try
    IO.FS.writeFile path text
    return .ok ()
  catch e => return .error (fileFault e)

/-- Run a program, asking the process for what it asks. -/
def Program.perform {α : Type} : Program α → IO α
  | .done a => return a
  | .print text next => do IO.print text; next.perform
  | .readFile path next => do (next (← readText path)).perform
  | .writeFile path text next => do (next (← writeText path text)).perform
  | .drawSeed next => do (next (← IO.rand 1 (2 ^ 30 - 1))).perform

end Formicary

open Formicary in
/-- The first argument `tournament` asks for a tournament; all others are for the war itself. -/
def main (args : List String) : IO UInt32 := do
  let program := match args with
    | "tournament" :: rest => League.program rest
    | _ => War.program args
  let exit ← program.perform
  if let some complaint := exit.complaint? then
    IO.eprintln complaint
  return exit.code.toUInt32
