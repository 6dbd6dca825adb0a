/-
Module: Formicary.Battle
Purpose: The state of a battle and how it begins.
Main exports: Battle, Battle.account, Battle.muster, Battle.start, Battle.cellAt, Battle.ant?,
  Battle.living
-/
import Formicary.Battle.Board
import Formicary.Brain
import Formicary.Dice
import Formicary.Layout

namespace Formicary

/-- A battle between two rounds, or between the turns of two ants. -/
structure Battle where
  layout : Layout
  brains : PerColony Brain
  /-- The cells of all slots. -/
  cells : Array Cell
  /-- All ants there ever were, by number. -/
  ants : Array Ant
  dice : Dice
  seed : Nat
  /-- Rounds played. -/
  round : Nat
  ledger : Ledger
  /-- Number of ants at the start. -/
  mustered : PerColony Nat

namespace Battle

/-! ### The start -/

/-- Put one site of the map on the board. An anthill cell comes with an ant, which gets the next
number. -/
def settle (board : Array Cell × Array Ant) (site : Terrain × Nat) : Array Cell × Array Ant :=
  let (cells, ants) := board
  let (terrain, slot) := site
  match terrain.owner? with
  | some colony =>
    let cell := { Cell.ofTerrain terrain with occupant := some ants.size }
    (cells.setIfInBounds slot cell, ants.push (.fresh colony slot))
  | none => (cells.setIfInBounds slot (.ofTerrain terrain), ants)

/-- The cells and ants of a map. -/
def board (w : World) (l : Layout) : Array Cell × Array Ant :=
  ((w.sites.map Site.terrain).zip (l.slots.map Prod.snd)).foldl settle
    (Array.replicate l.size .rock, #[])

/-- The account of the food that lies on a map, entered site by site. -/
def account (w : World) : Ledger :=
  w.sites.foldl (fun l s => l.put s.terrain.owner? s.terrain.foodAmount) (.ofUnclaimed 0)

/-- The ants of either colony that a map brings with it, counted site by site. -/
def muster (w : World) : PerColony Nat :=
  w.sites.foldl (fun n s => s.terrain.owner?.elim n fun colony => n.modify colony (· + 1)) (.both 0)

/-- Begin a battle on a map. -/
def start (w : World) (brains : PerColony Brain) (seed : Nat) : Except LayoutFault Battle := do
  let layout ← Layout.build w.places
  let (cells, ants) := board w layout
  return {
    layout, brains, cells, ants, seed
    dice := .ofSeed seed
    round := 0
    ledger := account w
    mustered := muster w }

/-! ### Views -/

/-- The cell of a slot. Outside the board there is only rock. -/
def cellAt (b : Battle) (slot : Nat) : Cell := b.cells[slot]?.getD .rock

/-- An ant by its number. -/
def ant? (b : Battle) (id : Nat) : Option Ant := b.ants[id]?

/-- The cell at a place of the map. -/
def cell? (b : Battle) (p : Place) : Option Cell := (b.layout.find? p).map b.cellAt

/-- The ant on the cell of a slot. -/
def occupant? (b : Battle) (slot : Nat) : Option Ant := (b.cellAt slot).occupant.bind b.ant?

/-- Number of living ants of a colony. -/
def living (b : Battle) (c : Colony) : Nat :=
  b.ants.countP fun a => a.alive && a.colony == c

/-! ### Changes -/

/-- Change the cell of a slot. -/
def changeCell (b : Battle) (slot : Nat) (f : Cell → Cell) : Battle :=
  { b with cells := b.cells.modify slot f }

/-- Change an ant. -/
def changeAnt (b : Battle) (id : Nat) (f : Ant → Ant) : Battle :=
  { b with ants := b.ants.modify id f }

/-- Change the account of the food. -/
def changeLedger (b : Battle) (f : Ledger → Ledger) : Battle :=
  { b with ledger := f b.ledger }

/-! ### Views after a change -/

section Views

variable (b : Battle) (slot id : Nat) (f : Cell → Cell) (g : Ant → Ant) (h : Ledger → Ledger)

@[simp] theorem layout_changeCell : (b.changeCell slot f).layout = b.layout := rfl

@[simp] theorem layout_changeAnt : (b.changeAnt id g).layout = b.layout := rfl

@[simp] theorem layout_changeLedger : (b.changeLedger h).layout = b.layout := rfl

@[simp] theorem size_cells_changeCell : (b.changeCell slot f).cells.size = b.cells.size :=
  Array.size_modify

@[simp] theorem ledger_changeCell : (b.changeCell slot f).ledger = b.ledger := rfl

@[simp] theorem ledger_changeAnt : (b.changeAnt id g).ledger = b.ledger := rfl

@[simp] theorem ledger_changeLedger : (b.changeLedger h).ledger = h b.ledger := rfl

@[simp] theorem ant?_changeCell (j : Nat) : (b.changeCell slot f).ant? j = b.ant? j := rfl

@[simp] theorem ant?_changeLedger (j : Nat) : (b.changeLedger h).ant? j = b.ant? j := rfl

theorem ant?_changeAnt (j : Nat) :
    (b.changeAnt id g).ant? j = if id = j then (b.ant? j).map g else b.ant? j := by
  simp only [ant?, changeAnt, Array.getElem?_modify]

@[simp] theorem cellAt_changeAnt (s : Nat) : (b.changeAnt id g).cellAt s = b.cellAt s := rfl

@[simp] theorem cellAt_changeLedger (s : Nat) : (b.changeLedger h).cellAt s = b.cellAt s := rfl

theorem cellAt_changeCell (s : Nat) :
    (b.changeCell slot f).cellAt s =
      if slot = s ∧ s < b.cells.size then f (b.cellAt s) else b.cellAt s := by
  by_cases onBoard : s < b.cells.size
  · by_cases same : slot = s <;>
      simp [cellAt, changeCell, Array.getElem_modify, same, onBoard]
  · simp [cellAt, changeCell, onBoard]

end Views

/-- A cell that is not bare rock has its slot on the board. -/
theorem lt_size_of_cellAt_ne {b : Battle} {s : Nat} (notBare : b.cellAt s ≠ .rock) :
    s < b.cells.size :=
  Nat.lt_of_not_le fun beyond => notBare (by simp [cellAt, Array.getElem?_eq_none beyond])

end Battle

end Formicary
