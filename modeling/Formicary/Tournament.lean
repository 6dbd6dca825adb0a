/-
Module: Formicary.Tournament
Purpose: Tournaments in which every brain meets every other in both colours.
Main exports: Entry, Fixture, schedule, Game, Game.play, Standing, standings, Tournament,
  Tournament.hold
-/
import Formicary.Match

namespace Formicary

/-- A brain that takes part in a tournament, under a name. -/
structure Entry where
  name : String
  brain : Brain

/-! ### The schedule -/

/-- A game to be played between two of `n` entries. -/
structure Fixture (n : Nat) where
  red : Fin n
  black : Fin n
  seed : Nat
deriving DecidableEq, Repr

/-- All games of `n` entries: for each seed, every red entry in turn meets every other. -/
def schedule (n : Nat) (seeds : List Nat) : List (Fixture n) :=
  seeds.flatMap fun seed =>
    (List.finRange n).flatMap fun red =>
      ((List.finRange n).filter (· ≠ red)).map fun black => { red, black, seed }

/-! ### Games -/

/-- The result of a game. -/
structure Game where
  red : String
  black : String
  seed : Nat
  outcome : Outcome
  /-- Food on the anthills at the end. -/
  food : PerColony Nat
deriving DecidableEq, Repr

namespace Game

/-- Play a game. It is a match of a single batch. -/
def play (w : World) (red black : Entry) (seed rounds : Nat) : Except Fault Game := do
  let stretch := max rounds 1
  let settings := { seed, rounds, batchSize := stretch, tallyInterval := stretch }
  let m ← Match.start w { red := red.brain, black := black.brain } settings
  let (m, _) := m.playOut (fun _ _ => ()) ()
  let report := m.report
  return {
    red := red.name
    black := black.name
    seed
    outcome := report.outcome
    food := report.finalTally.hill }

/-- The name under which a colony played. -/
def name (g : Game) : Colony → String
  | .red => g.red
  | .black => g.black

/-- A game as JSON. -/
def toJson (g : Game) : Json :=
  .obj [
    ("red", .str g.red),
    ("black", .str g.black),
    ("seed", .nat g.seed),
    ("outcome", g.outcome.toJson),
    ("food", g.food.toJson .nat)]

end Game

/-! ### Standings -/

/-- Points for a win. -/
def winPoints : Nat := 2

/-- Points for a draw. -/
def drawPoints : Nat := 1

/-- The account of an entry. -/
structure Standing where
  name : String
  played : Nat := 0
  wins : Nat := 0
  draws : Nat := 0
  losses : Nat := 0
  points : Nat := 0
  /-- Food on its own anthills at the end of all its games. -/
  food : Nat := 0
deriving DecidableEq, Repr

namespace Standing

/-- Enter one side of a game into an account. -/
def enter (s : Standing) (g : Game) (c : Colony) : Standing :=
  let s := { s with played := s.played + 1, food := s.food + g.food.get c }
  match g.outcome with
  | .draw => { s with draws := s.draws + 1, points := s.points + drawPoints }
  | .winner w =>
    if w = c then { s with wins := s.wins + 1, points := s.points + winPoints }
    else { s with losses := s.losses + 1 }

/-- Whether an account goes before another: more points first, then more food, then by name. -/
def goesBefore (a b : Standing) : Bool :=
  if a.points ≠ b.points then decide (b.points < a.points)
  else if a.food ≠ b.food then decide (b.food < a.food)
  else decide (a.name ≤ b.name)

/-- An account as JSON. -/
def toJson (s : Standing) : Json :=
  .obj [
    ("name", .str s.name),
    ("played", .nat s.played),
    ("wins", .nat s.wins),
    ("draws", .nat s.draws),
    ("losses", .nat s.losses),
    ("points", .nat s.points),
    ("food", .nat s.food)]

end Standing

/-- Change the first account of a name. -/
def creditFirst (name : String) (f : Standing → Standing) : List Standing → List Standing
  | [] => []
  | s :: rest => if s.name = name then f s :: rest else s :: creditFirst name f rest

/-- Enter both sides of a game. A side whose name has no account is left out. -/
def creditGame (table : List Standing) (g : Game) : List Standing :=
  Colony.all.foldl (fun table c => creditFirst (g.name c) (·.enter g c) table) table

/-- The accounts of all names after some games, the best first. Of entries that share a name only
the first is credited. -/
def standings (names : List String) (games : List Game) : List Standing :=
  (games.foldl creditGame (names.map fun name => { name })).mergeSort Standing.goesBefore

/-! ### Tournaments -/

/-- A tournament that has been held. -/
structure Tournament where
  games : List Game
  standings : List Standing
deriving DecidableEq, Repr

namespace Tournament

/-- Hold a tournament. The games may be played in any order, and side by side. Of whoever collects
their results it is assumed that they come in the order of the schedule if all games can be played,
and that otherwise the fault reported is that of some game which cannot be played. Which one it is may
depend on chance; here the first of the schedule stands for it. -/
def hold (w : World) (entries : List Entry) (seeds : List Nat) (rounds : Nat) :
    Except Fault Tournament := do
  if entries.length < 2 then .error (.settings (.complaint .tooFewEntries))
  if seeds.isEmpty then .error (.settings (.complaint .noSeeds))
  let games ← (schedule entries.length seeds).mapM fun f =>
    Game.play w entries[f.red] entries[f.black] f.seed rounds
  return { games, standings := Formicary.standings (entries.map Entry.name) games }

/-- A tournament as JSON. -/
def toJson (t : Tournament) : Json :=
  .obj [
    ("games", .ofList Game.toJson t.games),
    ("standings", .ofList Standing.toJson t.standings)]

end Tournament

end Formicary
