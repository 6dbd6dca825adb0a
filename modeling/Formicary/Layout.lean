/-
Module: Formicary.Layout
Purpose: Numbering the cells of a map so that a step in a direction is one addition.
Main exports: Frame, Frame.neighbor, Frame.slot?, Frame.hexAt, Layout, LayoutFault, Layout.build
-/
import Std.Data.TreeSet
import Formicary.World

namespace Formicary

/-!
The cells of a map are numbered row by row in a rectangle of axial coordinates. The rectangle is one
cell wider than the map on every side, so that each neighbour of a cell of the map has a number too
and a step never runs from the end of one row into the next. The numbers are called slots.
-/

/-- A rectangle of axial coordinates whose least corner has slot zero. -/
structure Frame where
  minU : Int
  minV : Int
  width : Nat
  height : Nat
deriving DecidableEq, Repr, Inhabited

namespace Frame

/-- Number of slots. -/
def size (f : Frame) : Nat := f.width * f.height

/-- Whether the rectangle holds a cell. -/
def contains (f : Frame) (h : Hex) : Bool :=
  f.minU ≤ h.u && h.u < f.minU + f.height && f.minV ≤ h.v && h.v < f.minV + f.width

/-- Slot of a cell of the rectangle. -/
def slot (f : Frame) (h : Hex) : Nat :=
  (h.u - f.minU).toNat * f.width + (h.v - f.minV).toNat

/-- Slot of a cell, if it lies in the rectangle. -/
def slot? (f : Frame) (h : Hex) : Option Nat :=
  if f.contains h then some (f.slot h) else none

/-- The cell of a slot. Slots past the end go on in rows below the rectangle, and rows are signed
words of 32 bits. -/
def hexAt (f : Frame) (slot : Nat) : Hex :=
  { u := f.minU + Int.bmod (slot / f.width : Nat) UInt32.size, v := f.minV + (slot % f.width : Nat) }

/-- The map place of a slot. -/
def placeAt (f : Frame) (slot : Nat) : Place := (f.hexAt slot).toPlace

/-- What a step in a direction adds to a slot. -/
def offset (f : Frame) (d : Direction) : Int := d.du * f.width + d.dv

/-- The slot one step away. Slots are words of 64 bits, and a step off either end wraps around. -/
def neighbor (f : Frame) (slot : Nat) (d : Direction) : Nat :=
  ((slot + f.offset d) % UInt64.size).toNat

/-- The rectangle around some cells, with a margin of one cell; none if there are no cells. -/
def around? (hexes : List Hex) : Option Frame := do
  let lowU ← (hexes.map Hex.u).min?
  let highU ← (hexes.map Hex.u).max?
  let lowV ← (hexes.map Hex.v).min?
  let highV ← (hexes.map Hex.v).max?
  return {
    minU := lowU - 1
    minV := lowV - 1
    width := (highV - lowV + 3).toNat
    height := (highU - lowU + 3).toNat }

end Frame

/-- A rectangle of slots together with the places of a map and their slots, in the map's order. -/
structure Layout extends Frame where
  slots : List (Place × Nat)
deriving DecidableEq, Repr, Inhabited

/-- Why a map has no layout. -/
inductive LayoutFault where
  /-- The map has no cells. -/
  | empty
  /-- The map has a place twice; it is the first that was there before. -/
  | duplicate (p : Place)
deriving DecidableEq, Repr

namespace LayoutFault

/-- The message for a map without a layout. -/
def message : LayoutFault → String
  | .empty => "world has no cells"
  | .duplicate p => s!"world lists cell ({p.x}, {p.y}) more than once"

end LayoutFault

namespace Layout

/-- The first place whose slot was taken before. -/
def repeated? (taken : Std.TreeSet Nat) : List (Place × Nat) → Option Place
  | [] => none
  | (p, slot) :: rest =>
    if taken.contains slot then some p else repeated? (taken.insert slot) rest

/-- Lay out a list of places. -/
def build (places : List Place) : Except LayoutFault Layout :=
  match Frame.around? (places.map Hex.ofPlace) with
  | none => .error .empty
  | some frame =>
    let slots := places.map fun p => (p, frame.slot (Hex.ofPlace p))
    match repeated? ∅ slots with
    | some p => .error (.duplicate p)
    | none => .ok { frame with slots }

/-- Slot of a place that belongs to the map. -/
def find? (l : Layout) (p : Place) : Option Nat := l.slots.lookup p

end Layout

end Formicary
