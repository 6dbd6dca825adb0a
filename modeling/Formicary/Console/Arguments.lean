/-
Module: Formicary.Console.Arguments
Purpose: The arguments of a program: options with values, and positional arguments.
Main exports: Argument, Argument.scan, Arguments.one?, Arguments.required
-/
import Formicary.Text.Numeral
import Formicary.Text.Quoted

namespace Formicary

/-- An argument as it is meant. -/
inductive Argument where
  | option (name value : String)
  | positional (value : String)
deriving DecidableEq, Repr

/-- Why arguments make no sense. -/
abbrev UsageFault := String

namespace Argument

/-- Whether an argument looks like an option. A lone hyphen does not. -/
def looksLikeOption (arg : String) : Bool :=
  match arg.toList with
  | '-' :: _ :: _ => true
  | _ => false

/-- The name and value of an option that is written in one piece, `--name=value`. -/
def splitOption (arg : String) : String × Option String :=
  let cs := arg.toList.drop 2
  let name := cs.takeWhile (· ≠ '=')
  let value := match cs.drop name.length with
    | '=' :: value => some (String.ofList value)
    | _ => none
  (String.ofList name, value)

/-- Tell options from positional arguments. Every option has a value, in the same piece after an
equals sign or in the next one; a value in a piece of its own must not look like an option. After
a lone pair of hyphens all arguments are positional. -/
def scan (known : List String) : List String → Except UsageFault (List Argument)
  | [] => .ok []
  | "--" :: rest => .ok (rest.map .positional)
  | arg :: rest =>
    if !looksLikeOption arg then do return .positional arg :: (← scan known rest)
    else
      let (name, value) := splitOption arg
      if !arg.startsWith "--" || !known.contains name then .error s!"unexpected argument {arg}"
      else match value, rest with
        | some value, rest => do return .option name value :: (← scan known rest)
        | none, value :: rest =>
          if looksLikeOption value then .error s!"a value is required for {arg}"
          else do return .option name value :: (← scan known rest)
        | none, [] => .error s!"a value is required for {arg}"

end Argument

namespace Arguments

/-- The values of an option. -/
def values (args : List Argument) (name : String) : List String :=
  args.filterMap fun
    | .option n value => if n = name then some value else none
    | .positional _ => none

/-- The positional arguments in stretches that no option interrupts. -/
def stretches : List Argument → List (List String)
  | [] => [[]]
  | .option _ _ :: rest => [] :: stretches rest
  | .positional value :: rest =>
    match stretches rest with
    | [] => [[value]]
    | stretch :: more => (value :: stretch) :: more

/-- The positional arguments. -/
def positionals (args : List Argument) : List String := (stretches args).flatten

/-- The value of an option that may be given once. -/
def one? (args : List Argument) (name : String) : Except UsageFault (Option String) :=
  match values args name with
  | [] => .ok none
  | [value] => .ok (some value)
  | _ => .error s!"--{name} cannot be used multiple times"

/-- A path, which is not empty. -/
def path (value : String) : Except UsageFault String :=
  if value.isEmpty then .error "a value is required" else .ok value

/-- A number of at most 64 bits. -/
def number (value : String) : Except UsageFault Nat :=
  match Text.readWord? value.toList with
  | some n => .ok n
  | none => .error s!"invalid value {Text.quoted value}"

/-- A path that may be given once. -/
def path? (args : List Argument) (name : String) : Except UsageFault (Option String) := do
  match ← one? args name with
  | some value => return some (← path value)
  | none => return none

/-- A number that may be given once. -/
def number? (args : List Argument) (name : String) : Except UsageFault (Option Nat) := do
  match ← one? args name with
  | some value => return some (← number value)
  | none => return none

/-- A path that must be given once. -/
def requiredPath (args : List Argument) (name : String) : Except UsageFault String := do
  match ← path? args name with
  | some value => return value
  | none => .error s!"--{name} was not provided"

end Arguments

end Formicary
