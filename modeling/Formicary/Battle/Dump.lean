/-
Module: Formicary.Battle.Dump
Purpose: A battle as text, at one moment and over a number of rounds.
Main exports: Battle.dumpLines, Battle.trace
-/
import Formicary.Battle.Turn

namespace Formicary

/-! ### One moment -/

/-- An ant as a dump shows it. -/
def Ant.dump (id : Nat) (a : Ant) : String :=
  s!"{a.colony.name} ant of id {id}, dir {a.facing.val}, food {a.laden.toNat}, " ++
    s!"state {a.state}, resting {a.resting}"

/-- The markers of a set, as digits in ascending order. -/
def MarkerSet.digits (s : MarkerSet) : String :=
  String.join (s.toList.map Marker.word)

/-- The markers of a colony as a dump shows them. -/
def MarkerSet.dump (c : Colony) (s : MarkerSet) : String :=
  if s.isEmpty then "" else s!"{c.name} marks: {s.digits}; "

namespace Battle

/-- A cell as a dump shows it. -/
def dumpCell (b : Battle) (p : Place) (cell : Cell) : String :=
  String.join [
    s!"cell ({p.x}, {p.y}): ",
    if cell.isRock then "rock" else "",
    if 0 < cell.food then s!"{cell.food} food; " else "",
    match cell.owner with
    | some c => s!"{c.name} hill; "
    | none => "",
    MarkerSet.dump .red cell.markers.red,
    MarkerSet.dump .black cell.markers.black,
    match cell.occupant with
    | some id => ((b.ant? id).map (Ant.dump id)).getD ""
    | none => ""]

/-- The cells of the map in its order, a line for each. -/
def dumpLines (b : Battle) : List String :=
  b.layout.slots.map fun (place, slot) => b.dumpCell place (b.cellAt slot)

/-! ### A number of rounds -/

/-- The block of a trace for the present moment. -/
def traceBlock (b : Battle) : List String :=
  s!"After round {b.round}..." :: b.dumpLines ++ [""]

/-- The blocks of the next `n` rounds, each after its round, and the battle after them. -/
def traceRounds (b : Battle) : Nat → List (List String) → List (List String) × Battle
  | 0, blocks => (blocks.reverse, b)
  | n + 1, blocks =>
    let b := b.playRound
    b.traceRounds n (b.traceBlock :: blocks)

/-- The lines of the trace of `n` rounds, and the battle after them. The trace names the seed and
then shows the present moment and that after each of the rounds. -/
def traceLines (b : Battle) (n : Nat) : List String × Battle :=
  let (blocks, after) := b.traceRounds n []
  (s!"random seed: {b.seed}" :: "" :: (b.traceBlock :: blocks).flatten, after)

/-- The text of the trace of `n` rounds, each line ended by a line feed, and the battle after
them. -/
def trace (b : Battle) (n : Nat) : String × Battle :=
  let (lines, after) := b.traceLines n
  (String.join (lines.map (· ++ "\n")), after)

end Battle

end Formicary
