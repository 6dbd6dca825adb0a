/-
Module: Formicary.Battle.Snapshot
Purpose: A battle at one moment, as data.
Main exports: CellView, AntView, Snapshot, Battle.snapshot, Snapshot.toJson
-/
import Formicary.Battle.Tally

namespace Formicary

/-- A cell of the map in a snapshot. -/
structure CellView where
  place : Place
  cell : Cell
deriving DecidableEq, Repr

/-- An ant in a snapshot. A dead ant is shown where it died. -/
structure AntView where
  id : Nat
  place : Place
  ant : Ant
deriving DecidableEq, Repr

/-- A battle at one moment: the cells of the map in its order, all ants by number, and the
figures. -/
structure Snapshot where
  round : Nat
  seed : Nat
  cells : List CellView
  ants : List AntView
  tally : Tally
deriving DecidableEq, Repr

/-- The present state of a battle. -/
def Battle.snapshot (b : Battle) : Snapshot :=
  { round := b.round
    seed := b.seed
    cells := b.layout.slots.map fun (place, slot) => { place, cell := b.cellAt slot }
    ants := b.ants.toList.zipIdx.map fun (ant, id) =>
      { id, place := b.layout.placeAt ant.slot, ant }
    tally := b.tally }

/-! ### JSON -/

/-- A place as JSON. -/
def Place.toJson (p : Place) : Json :=
  .obj [("x", .num p.x), ("y", .num p.y)]

/-- A colony as JSON. -/
def Colony.toJson (c : Colony) : Json := .str c.name

/-- A cell as JSON. -/
def CellView.toJson (v : CellView) : Json :=
  .obj [
    ("pos", v.place.toJson),
    ("rock", .bool v.cell.isRock),
    ("food", .nat v.cell.food),
    ("hill", .ofOption Colony.toJson v.cell.owner),
    ("markers", v.cell.markers.toJson fun s => .nat s.mask.toNat),
    ("occupant", .ofOption .nat v.cell.occupant)]

/-- An ant as JSON. -/
def AntView.toJson (v : AntView) : Json :=
  .obj [
    ("id", .nat v.id),
    ("color", v.ant.colony.toJson),
    ("pos", v.place.toJson),
    ("facing", .nat v.ant.facing.val),
    ("has_food", .bool v.ant.laden),
    ("state", .nat v.ant.state),
    ("resting", .nat v.ant.resting),
    ("alive", .bool v.ant.alive)]

/-- A snapshot as JSON. -/
def Snapshot.toJson (s : Snapshot) : Json :=
  .obj [
    ("round", .nat s.round),
    ("seed", .nat s.seed),
    ("cells", .ofList CellView.toJson s.cells),
    ("ants", .ofList AntView.toJson s.ants),
    ("tally", s.tally.toJson)]

end Formicary
