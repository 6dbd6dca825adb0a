/-
Module: Formicary.Console.League
Purpose: The program that holds a tournament.
Main exports: League.Order, League.Order.parse, League.program
-/
import Formicary.Console.War
import Formicary.Tournament

namespace Formicary

namespace League

/-! ### Arguments -/

/-- What to do in a tournament. -/
structure Order where
  world : String
  seeds : List Nat
  rounds : Nat
  json : Option String
  brains : List String
deriving DecidableEq, Repr

/-- The seeds in the values of an option, separated by commas. -/
def Order.parseSeeds (values : List String) : Except UsageFault (List Nat) :=
  let pieces := values.flatMap fun value => (value.toList.splitOn ',').map String.ofList
  pieces.mapM Arguments.number

/-- The arguments of the program. Each stretch of brains between options has at least two. -/
def Order.parse (args : List String) : Except UsageFault Order := do
  let args ← Argument.scan ["world", "seeds", "rounds", "json"] args
  let stretches := (Arguments.stretches args).filter fun stretch => !stretch.isEmpty
  if stretches.isEmpty then .error "brains were not provided"
  if stretches.any fun stretch => decide (stretch.length < 2) then
    .error "at least two brains are required"
  let seeds := Arguments.values args "seeds"
  return {
    world := ← Arguments.requiredPath args "world"
    seeds := ← if seeds.isEmpty then pure [Settings.default.seed] else Order.parseSeeds seeds
    rounds := (← Arguments.number? args "rounds").getD Settings.default.rounds
    json := ← Arguments.path? args "json"
    brains := ← stretches.flatten.mapM Arguments.path }

/-! ### Names -/

/-- A file name without its extension, which begins at the last point unless that is where the name
begins. -/
def stem (name : List Char) : List Char :=
  let head := (name.reverse.dropWhile (· ≠ '.')).drop 1
  if head.isEmpty then name else head.reverse

/-- The name of a brain in the standings: the stem of its file name, or the whole path if that ends
in no file name. -/
def entryName (path : String) : String :=
  match ((path.toList.splitOn '/').filter fun part => !part.isEmpty && part != ['.']).getLast? with
  | none => path
  | some name => if name = ['.', '.'] then path else String.ofList (stem name)

/-! ### The table -/

/-- A line of the table. -/
def tableLine (rank name played wins draws losses points food : String) : String :=
  " ".intercalate [
    Text.alignLeft 4 rank, Text.alignLeft 20 name, Text.alignRight 6 played,
    Text.alignRight 4 wins, Text.alignRight 4 draws, Text.alignRight 4 losses,
    Text.alignRight 6 points, Text.alignRight 8 food]

/-- The line of an account. -/
def standingLine (rank : Nat) (s : Standing) : String :=
  tableLine (toString rank) s.name (toString s.played) (toString s.wins) (toString s.draws)
    (toString s.losses) (toString s.points) (toString s.food)

/-- The table of a tournament. -/
def table (t : Tournament) : List String :=
  tableLine "#" "brain" "played" "W" "D" "L" "points" "food" ::
    t.standings.zipIdx.map fun (s, rank) => standingLine (rank + 1) s

/-! ### The program -/

/-- Hold a tournament, print its table and write what is asked for. -/
def hold (order : Order) : Job Exit := do
  let world ← Job.loadWorld order.world
  let entries ← order.brains.mapM fun path => do
    return ({ name := entryName path, brain := ← Job.loadBrain path } : Entry)
  let tournament ← Job.ofExcept id (Tournament.hold world entries order.seeds order.rounds)
  (table tournament).forM Job.printLine
  if let some path := order.json then
    Job.writeFile path tournament.toJson.pretty
  return .success

/-- The program. -/
def program (args : List String) : Program Exit :=
  match Order.parse args with
  | .error reason => .done (.usage reason)
  | .ok order => (hold order).finish

end League

end Formicary
