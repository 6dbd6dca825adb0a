/-
Module: Formicary.Console.Program
Purpose: Programs as the things they ask of their surroundings, and the ways they end.
Main exports: Program, Job, Exit
-/
import Formicary.Fault

namespace Formicary

/-- A program: it is done, or it asks something of its surroundings and goes on with the answer. -/
inductive Program (α : Type) where
  | done (result : α)
  | print (text : String) (next : Program α)
  | readFile (path : String) (next : Except FileFault String → Program α)
  | writeFile (path text : String) (next : Except FileFault Unit → Program α)
  /-- Draw a seed at random. -/
  | drawSeed (next : Nat → Program α)

namespace Program

variable {α β : Type}

/-- Go on with the result of a program. -/
def bind : Program α → (α → Program β) → Program β
  | .done a, f => f a
  | .print text next, f => .print text (next.bind f)
  | .readFile path next, f => .readFile path fun content => (next content).bind f
  | .writeFile path text next, f => .writeFile path text fun answer => (next answer).bind f
  | .drawSeed next, f => .drawSeed fun seed => (next seed).bind f

instance : Monad Program where
  pure := .done
  bind := bind

end Program

/-- A program that may come to an early end with a fault. -/
abbrev Job := ExceptT Fault Program

namespace Job

/-- Print a line. -/
def printLine (line : String) : Job Unit :=
  ExceptT.lift (.print (line ++ "\n") (.done ()))

/-- Draw a seed. -/
def drawSeed : Job Nat :=
  ExceptT.lift (.drawSeed .done)

/-- The text of a file, or why it cannot be read. -/
def contents (path : String) : Job (Except FileFault String) :=
  ExceptT.lift (.readFile path .done)

/-- Write a file. -/
def writeFile (path text : String) : Job Unit :=
  ExceptT.mk (.writeFile path text fun answer => .done (answer.mapError Fault.file))

/-- Fail with a fault, or go on. -/
def ofExcept {α ε : Type} (label : ε → Fault) (answer : Except ε α) : Job α :=
  ExceptT.mk (.done (answer.mapError label))

/-- The text of a file. -/
def readFile (path : String) : Job String := do
  ofExcept .file (← contents path)

end Job

/-- How a program ends. -/
inductive Exit where
  | success
  /-- The program did what it could and something was wrong. -/
  | failure
  | fault (fault : Fault)
  /-- The arguments make no sense. -/
  | usage (reason : String)
deriving DecidableEq, Repr

namespace Exit

/-- The number that stands for the way a program ended. -/
def code : Exit → Nat
  | .success => 0
  | .failure => 1
  | .fault _ => 1
  | .usage _ => 2

/-- What is said about a program that ended badly. -/
def complaint? : Exit → Option String
  | .success => none
  | .failure => none
  | .fault cause => some s!"Error: {cause.message}"
  | .usage reason => some s!"error: {reason}"

end Exit

/-- Run a job to its end. -/
def Job.finish (job : Job Exit) : Program Exit := do
  match ← job.run with
  | .ok exit => return exit
  | .error fault => return .fault fault

end Formicary
