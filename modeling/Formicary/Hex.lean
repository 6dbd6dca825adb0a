/-
Module: Formicary.Hex
Purpose: The hexagonal plane in two coordinate systems.
Main exports: Place, Hex, Direction, Hex.ofPlace, Hex.toPlace, Hex.neighbor, Hex.distance
-/

namespace Formicary

/-!
Maps give a cell by column and row, with every odd row shifted half a cell to the right:

```text
(0,0) (1,0) (2,0)
   (0,1) (1,1) (2,1)
(0,2) (1,2) (2,2)
```

In the axial coordinates `(u, v)` below `u` is the row and `v` the column less half the row, so
that a step in one of the six directions adds the same pair everywhere.
-/

/-- A cell of a map, by column and row. -/
structure Place where
  x : Int
  y : Int
deriving DecidableEq, Repr, Inhabited

/-- A cell of the hexagonal plane in axial coordinates. -/
structure Hex where
  u : Int
  v : Int
deriving DecidableEq, Repr, Inhabited

/-- The six directions, clockwise from east: E, SE, SW, W, NW, NE. -/
abbrev Direction := Fin 6

-- so that the numerals of directions mean the same whatever else is imported
instance neZero_six : @NeZero Nat Zero.ofOfNat0 6 := ⟨Nat.succ_ne_zero 5⟩

namespace Direction

/-- All directions in clockwise order from east. -/
def all : List Direction := [0, 1, 2, 3, 4, 5]

/-- Rows gained by a step. -/
def du : Direction → Int
  | 0 => 0
  | 1 => 1
  | 2 => 1
  | 3 => 0
  | 4 => -1
  | 5 => -1

/-- Axial columns gained by a step. -/
def dv : Direction → Int
  | 0 => 1
  | 1 => 0
  | 2 => -1
  | 3 => -1
  | 4 => 0
  | 5 => 1

/-- The direction a sixth of a turn to the left. -/
def left (d : Direction) : Direction := d + 5

/-- The direction a sixth of a turn to the right. -/
def right (d : Direction) : Direction := d + 1

theorem mem_all (d : Direction) : d ∈ all := by
  revert d; decide

@[simp] theorem left_right (d : Direction) : d.left.right = d := by
  revert d; decide

@[simp] theorem right_left (d : Direction) : d.right.left = d := by
  revert d; decide

end Direction

namespace Hex

/-- Axial coordinates of a map cell. The quotient is rounded down, also in negative rows. -/
def ofPlace (p : Place) : Hex :=
  { u := p.y, v := p.x - p.y / 2 }

/-- The map cell with the given axial coordinates. -/
def toPlace (h : Hex) : Place :=
  { x := h.v + h.u / 2, y := h.u }

/-- The third coordinate, which makes the three add up to zero. -/
def w (h : Hex) : Int := -h.u - h.v

/-- The cell one step away. -/
def neighbor (h : Hex) (d : Direction) : Hex :=
  { u := h.u + d.du, v := h.v + d.dv }

/-- The six cells one step away, in clockwise order from east. -/
def neighbors (h : Hex) : List Hex :=
  Direction.all.map h.neighbor

/-- Number of steps from one cell to another: half the sum of the three coordinate distances. -/
def distance (a b : Hex) : Nat :=
  ((a.u - b.u).natAbs + (a.v - b.v).natAbs + (a.w - b.w).natAbs) / 2

@[simp] theorem toPlace_ofPlace (p : Place) : (ofPlace p).toPlace = p := by
  cases p; simp [ofPlace, toPlace]

@[simp] theorem ofPlace_toPlace (h : Hex) : ofPlace h.toPlace = h := by
  cases h; simp [ofPlace, toPlace]

end Hex

end Formicary
