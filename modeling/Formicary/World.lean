/-
Module: Formicary.World
Purpose: The map a war is fought on, before the war.
Main exports: Terrain, Site, World, World.get?, World.totalFood, World.hillCount
-/
import Formicary.Colony
import Formicary.Hex

namespace Formicary

/-- What a cell of a map holds. -/
inductive Terrain where
  | rock
  | clear
  /-- Part of a colony's anthill, on which one of its ants starts. -/
  | hill (owner : Colony)
  /-- Clear ground with food on it. -/
  | food (amount : Nat)
deriving DecidableEq, Repr, Inhabited

namespace Terrain

/-- The colony whose anthill the cell is part of. -/
def owner? : Terrain → Option Colony
  | .hill owner => some owner
  | _ => none

/-- Pieces of food on the cell. -/
def foodAmount : Terrain → Nat
  | .food amount => amount
  | _ => 0

/-- Exchange the two colonies. -/
def swap : Terrain → Terrain
  | .hill owner => .hill owner.foe
  | t => t

end Terrain

/-- A cell of a map. -/
structure Site where
  place : Place
  terrain : Terrain
deriving DecidableEq, Repr, Inhabited

/-- A map. The order of its sites is the order of dumps and of the ants' numbers. The width and
height are those that the map declares; the sites need not fill them. -/
structure World where
  width : Nat
  height : Nat
  sites : List Site
deriving DecidableEq, Repr, Inhabited

namespace World

/-- The places of a map, in its order. -/
def places (w : World) : List Place := w.sites.map Site.place

/-- What the map has at a place. -/
def get? (w : World) (p : Place) : Option Terrain :=
  (w.sites.find? fun s => decide (s.place = p)).map Site.terrain

/-- All food on the map. -/
def totalFood (w : World) : Nat :=
  w.sites.foldr (fun s n => s.terrain.foodAmount + n) 0

/-- Number of anthill cells of a colony, which is the number of ants it starts with. -/
def hillCount (w : World) (c : Colony) : Nat :=
  w.sites.countP fun s => decide (s.terrain.owner? = some c)

/-- The map with the two colonies exchanged. -/
def swap (w : World) : World :=
  { w with sites := w.sites.map fun s => { s with terrain := s.terrain.swap } }

end World

end Formicary
