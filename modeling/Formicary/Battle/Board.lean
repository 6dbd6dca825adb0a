/-
Module: Formicary.Battle.Board
Purpose: The pieces of a battle: cells with their markers, ants, and the account of the food.
Main exports: MarkerSet, Cell, Ant, Ledger
-/
import Formicary.Brain.Instruction
import Formicary.World

namespace Formicary

/-! ### Markers -/

/-- The markers that a colony has on a cell, one bit for each. -/
structure MarkerSet where
  mask : BitVec 6
deriving DecidableEq, Repr

namespace MarkerSet

/-- No marker. -/
def empty : MarkerSet := { mask := 0#6 }

/-- Add a marker. -/
def insert (s : MarkerSet) (m : Marker) : MarkerSet :=
  { mask := s.mask ||| BitVec.twoPow 6 m }

/-- Take a marker away. -/
def erase (s : MarkerSet) (m : Marker) : MarkerSet :=
  { mask := s.mask &&& ~~~BitVec.twoPow 6 m }

/-- Whether a marker is in the set. -/
def contains (s : MarkerSet) (m : Marker) : Bool := s.mask.getLsbD m

/-- Whether the set has no marker. -/
def isEmpty (s : MarkerSet) : Bool := s.mask == 0#6

/-- The markers of the set in ascending order. -/
def toList (s : MarkerSet) : List Marker := Marker.all.filter s.contains

@[simp] theorem contains_empty (m : Marker) : empty.contains m = false := by
  simp [contains, empty]

@[simp] theorem contains_insert (s : MarkerSet) (m n : Marker) :
    (s.insert m).contains n = (s.contains n || m == n) := by
  by_cases equal : m = n
  · simp [contains, insert, equal]
  · have other : n.val ≠ m.val := fun h => equal (Fin.ext h.symm)
    simp [contains, insert, equal, other]

@[simp] theorem contains_erase (s : MarkerSet) (m n : Marker) :
    (s.erase m).contains n = (s.contains n && m != n) := by
  by_cases equal : m = n
  · simp [contains, erase, equal]
  · have other : n.val ≠ m.val := fun h => equal (Fin.ext h.symm)
    simp [contains, erase, equal, other]

end MarkerSet

/-! ### Cells -/

/-- A cell of the board. -/
structure Cell where
  isRock : Bool
  /-- Number of the ant that stands here. -/
  occupant : Option Nat
  /-- The colony whose anthill this cell is part of. -/
  owner : Option Colony
  food : Nat
  markers : PerColony MarkerSet
deriving DecidableEq, Repr

namespace Cell

/-- Bare rock, which fills the slots that belong to no cell of the map. -/
def rock : Cell :=
  { isRock := true, occupant := none, owner := none, food := 0, markers := .both .empty }

/-- A cell as the map has it, without an ant. -/
def ofTerrain (t : Terrain) : Cell :=
  { isRock := t == .rock, occupant := none, owner := t.owner?, food := t.foodAmount,
    markers := .both .empty }

end Cell

instance : Inhabited Cell := ⟨.rock⟩

/-! ### Ants -/

/-- An ant. A dead ant keeps its number and stays where it died. -/
structure Ant where
  colony : Colony
  /-- Slot of the cell it stands on. -/
  slot : Nat
  state : State
  /-- Rounds until it acts again. -/
  resting : Nat
  facing : Direction
  /-- Whether it carries a piece of food. -/
  laden : Bool
  alive : Bool
deriving DecidableEq, Repr

/-- An ant at the start of a battle. -/
def Ant.fresh (colony : Colony) (slot : Nat) : Ant :=
  { colony, slot, state := 0, resting := 0, facing := 0, laden := false, alive := true }

/-! ### Food -/

/-- Where all the food is: on the anthill of either colony, carried by the living ants of either
colony, or elsewhere. -/
structure Ledger where
  hill : PerColony Nat
  carried : PerColony Nat
  unclaimed : Nat
deriving DecidableEq, Repr

namespace Ledger

/-- An account where all food lies outside the anthills. -/
def ofUnclaimed (amount : Nat) : Ledger :=
  { hill := .both 0, carried := .both 0, unclaimed := amount }

/-- All food. -/
def total (l : Ledger) : Nat :=
  l.hill.red + l.hill.black + l.carried.red + l.carried.black + l.unclaimed

/-- Food is put on a cell with the given owner. -/
def put (l : Ledger) (owner : Option Colony) (amount : Nat) : Ledger :=
  match owner with
  | some c => { l with hill := l.hill.modify c (· + amount) }
  | none => { l with unclaimed := l.unclaimed + amount }

/-- Food is taken from a cell with the given owner. -/
def take (l : Ledger) (owner : Option Colony) (amount : Nat) : Ledger :=
  match owner with
  | some c => { l with hill := l.hill.modify c (· - amount) }
  | none => { l with unclaimed := l.unclaimed - amount }

/-- A colony's ants carry one piece more. -/
def load (l : Ledger) (c : Colony) : Ledger :=
  { l with carried := l.carried.modify c (· + 1) }

/-- A colony's ants carry one piece less. -/
def unload (l : Ledger) (c : Colony) : Ledger :=
  { l with carried := l.carried.modify c (· - 1) }

/-- The food that lies on the cells of an owner, by the account. -/
def lying (l : Ledger) : Option Colony → Nat
  | some c => l.hill.get c
  | none => l.unclaimed

theorem total_eq (l : Ledger) :
    l.total = l.lying (some .red) + l.lying (some .black) + l.carried.get .red +
      l.carried.get .black + l.lying none := rfl

section Entries

variable (l : Ledger) (owner o : Option Colony) (c d : Colony) (amount : Nat)

@[simp] theorem lying_put :
    (l.put owner amount).lying o = l.lying o + if owner = o then amount else 0 := by
  rcases owner with _ | _ | _ <;> rcases o with _ | _ | _ <;> rfl

@[simp] theorem lying_take :
    (l.take owner amount).lying o = l.lying o - if owner = o then amount else 0 := by
  rcases owner with _ | _ | _ <;> rcases o with _ | _ | _ <;> rfl

@[simp] theorem lying_load : (l.load c).lying o = l.lying o := by
  cases o <;> rfl

@[simp] theorem lying_unload : (l.unload c).lying o = l.lying o := by
  cases o <;> rfl

@[simp] theorem carried_put : (l.put owner amount).carried = l.carried := by
  cases owner <;> rfl

@[simp] theorem carried_take : (l.take owner amount).carried = l.carried := by
  cases owner <;> rfl

@[simp] theorem carried_load :
    (l.load c).carried.get d = l.carried.get d + if c = d then 1 else 0 := by
  cases c <;> cases d <;> rfl

@[simp] theorem carried_unload :
    (l.unload c).carried.get d = l.carried.get d - if c = d then 1 else 0 := by
  cases c <;> cases d <;> rfl

end Entries

end Ledger

end Formicary
