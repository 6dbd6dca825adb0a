/-
Module: Formicary.Proofs.Plane
Purpose: The same war on the plain hexagonal plane: the board is a finite map of cells by their axial
  coordinates, ants know where they stand by such coordinates, and no cell has a number.
Main exports: Walker, Plane, Plane.start, Plane.act, Plane.takeTurn, Plane.playRounds
-/
import Mathlib.Data.Finmap
import Formicary.Battle.Turn

namespace Formicary

/-!
The battle of the library numbers the cells of a rectangle and turns a step into an addition. Here
is what this is to come to: a step goes from one pair of coordinates to another, and beyond the cells
of the map there is rock. What an ant does with a cell, the dice and the account of the food are those
of the library.
-/

/-- An ant that stands on a cell of the plane. -/
structure Walker where
  colony : Colony
  hex : Hex
  state : State
  resting : Nat
  facing : Direction
  laden : Bool
  alive : Bool
deriving DecidableEq, Repr

/-- An ant at the start. -/
def Walker.fresh (colony : Colony) (hex : Hex) : Walker :=
  { colony, hex, state := 0, resting := 0, facing := 0, laden := false, alive := true }

/-- A battle on the plane. -/
structure Plane where
  brains : PerColony Brain
  /-- The cells of the map, by coordinates. -/
  cells : Finmap fun _ : Hex => Cell
  /-- All ants there ever were, by number. -/
  ants : Array Walker
  dice : Dice
  round : Nat
  ledger : Ledger

namespace Plane

/-! ### Views and changes -/

/-- The cell with some coordinates. What is not on the map is rock. -/
def cellAt (p : Plane) (h : Hex) : Cell := (p.cells.lookup h).getD .rock

/-- An ant by its number. -/
def ant? (p : Plane) (id : Nat) : Option Walker := p.ants[id]?

/-- The ant on a cell. -/
def occupant? (p : Plane) (h : Hex) : Option Walker := (p.cellAt h).occupant.bind p.ant?

/-- Change a cell of the map. -/
def changeCell (p : Plane) (h : Hex) (f : Cell → Cell) : Plane :=
  match p.cells.lookup h with
  | some cell => { p with cells := p.cells.insert h (f cell) }
  | none => p

/-- Change an ant. -/
def changeAnt (p : Plane) (id : Nat) (f : Walker → Walker) : Plane :=
  { p with ants := p.ants.modify id f }

/-- Change the account of the food. -/
def changeLedger (p : Plane) (f : Ledger → Ledger) : Plane :=
  { p with ledger := f p.ledger }

/-! ### The start -/

/-- Put one site of the map on the plane, with an ant if it is an anthill cell. -/
def settle (board : (Finmap fun _ : Hex => Cell) × Array Walker) (s : Site) :
    (Finmap fun _ : Hex => Cell) × Array Walker :=
  let (cells, ants) := board
  let hex := Hex.ofPlace s.place
  match s.terrain.owner? with
  | some colony =>
    let cell := { Cell.ofTerrain s.terrain with occupant := some ants.size }
    (cells.insert hex cell, ants.push (.fresh colony hex))
  | none => (cells.insert hex (.ofTerrain s.terrain), ants)

/-- Begin a battle on the plane. -/
def start (w : World) (brains : PerColony Brain) (seed : Nat) : Plane :=
  let (cells, ants) := w.sites.foldl settle (∅, #[])
  { brains, cells, ants, dice := .ofSeed seed, round := 0, ledger := .ofUnclaimed w.totalFood }

/-! ### The surround rule -/

/-- Whether an ant of the other colony stands on a cell. -/
def hasFoeOf (p : Plane) (c : Colony) (h : Hex) : Bool :=
  (p.occupant? h).any fun other => other.colony != c

/-- Number of foes of ant `id` next to a cell. -/
def adjacentFoes (p : Plane) (h : Hex) (id : Nat) : Nat :=
  match p.ant? id with
  | none => 0
  | some ant => h.neighbors.countP (p.hasFoeOf ant.colony)

/-- Kill an ant. Its cell gets the remains and the food it carried. -/
def kill (p : Plane) (id : Nat) : Plane :=
  match p.ant? id with
  | none => p
  | some ant =>
    let remains := 3 + ant.laden.toNat
    let owner := (p.cellAt ant.hex).owner
    let p := p.changeAnt id fun a => { a with alive := false, laden := false }
    let p := p.changeCell ant.hex fun c => { c with occupant := none, food := c.food + remains }
    p.changeLedger fun l =>
      let l := l.put owner remains
      if ant.laden then l.unload ant.colony else l

/-- Kill the ant on a cell if it is surrounded. -/
def judge (p : Plane) (h : Hex) : Plane :=
  match (p.cellAt h).occupant with
  | none => p
  | some id => if 5 ≤ p.adjacentFoes h id then p.kill id else p

/-- Apply the rule to a cell and then to its neighbours, clockwise from east. -/
def judgeAround (p : Plane) (h : Hex) : Plane := (h :: h.neighbors).foldl judge p

/-! ### Turns -/

/-- The cell that an ant looks at. -/
def sensedHex (ant : Walker) : Gaze → Hex
  | .here => ant.hex
  | .ahead => ant.hex.neighbor ant.facing
  | .leftAhead => ant.hex.neighbor ant.facing.left
  | .rightAhead => ant.hex.neighbor ant.facing.right

/-- Whether a condition holds of a cell, for an ant of colony `c`. -/
def holds (p : Plane) (c : Colony) (h : Hex) : Condition → Bool
  | .friend => (p.occupant? h).any fun a => a.colony == c
  | .foe => (p.occupant? h).any fun a => a.colony != c
  | .friendWithFood => (p.occupant? h).any fun a => a.colony == c && a.laden
  | .foeWithFood => (p.occupant? h).any fun a => a.colony != c && a.laden
  | .food => decide (0 < (p.cellAt h).food)
  | .rock => (p.cellAt h).isRock
  | .marker m => ((p.cellAt h).markers.get c).contains m
  | .foeMarker => !((p.cellAt h).markers.get c.foe).isEmpty
  | .home => (p.cellAt h).owner == some c
  | .foeHome => (p.cellAt h).owner.any (· != c)

/-- Change the markers of an ant's colony on the ant's cell. -/
def changeMarkers (p : Plane) (ant : Walker) (f : MarkerSet → MarkerSet) : Plane :=
  p.changeCell ant.hex fun cell => { cell with markers := cell.markers.modify ant.colony f }

/-- An ant takes a piece of food from its cell. -/
def take (p : Plane) (id : Nat) (ant : Walker) : Plane :=
  let owner := (p.cellAt ant.hex).owner
  let p := p.changeCell ant.hex fun cell => { cell with food := cell.food - 1 }
  let p := p.changeLedger fun l => (l.take owner 1).load ant.colony
  p.changeAnt id fun a => { a with laden := true }

/-- A laden ant puts its food on its cell. -/
def put (p : Plane) (id : Nat) (ant : Walker) : Plane :=
  let owner := (p.cellAt ant.hex).owner
  let p := p.changeCell ant.hex fun cell => { cell with food := cell.food + 1 }
  let p := p.changeLedger fun l => (l.unload ant.colony).put owner 1
  p.changeAnt id fun a => { a with laden := false }

/-- Whether an ant may step on a cell. -/
def isFree (p : Plane) (h : Hex) : Bool :=
  !(p.cellAt h).isRock && (p.cellAt h).occupant.isNone

/-- An ant steps from its cell to another, and has to rest. -/
def relocate (p : Plane) (id : Nat) (ant : Walker) (target : Hex) : Plane :=
  let p := p.changeCell ant.hex fun cell => { cell with occupant := none }
  let p := p.changeCell target fun cell => { cell with occupant := some id }
  p.changeAnt id fun a => { a with hex := target, resting := 14 }

/-- The effect of an instruction that ant `id` carries out, and the ant's next state. -/
def act (p : Plane) (id : Nat) (ant : Walker) : Instruction → Plane × State
  | .sense gaze ifTrue ifFalse condition =>
    if p.holds ant.colony (sensedHex ant gaze) condition then (p, ifTrue) else (p, ifFalse)
  | .mark marker next => (p.changeMarkers ant (·.insert marker), next)
  | .unmark marker next => (p.changeMarkers ant (·.erase marker), next)
  | .pickUp ifTaken ifNot =>
    if ant.laden || (p.cellAt ant.hex).food == 0 then (p, ifNot) else (p.take id ant, ifTaken)
  | .drop next => (if ant.laden then p.put id ant else p, next)
  | .turn rotation next =>
    (p.changeAnt id fun a => { a with facing := rotation.apply ant.facing }, next)
  | .move ifMoved ifBlocked =>
    let target := ant.hex.neighbor ant.facing
    if p.isFree target then ((p.relocate id ant target).judgeAround target, ifMoved)
    else (p, ifBlocked)
  | .flip odds ifZero ifOther =>
    let (n, dice) := p.dice.roll odds
    ({ p with dice }, if n = 0 then ifZero else ifOther)

/-- The turn of an ant: the dead do nothing, the tired rest, and the others carry out the
instruction of their state. -/
def takeTurn (p : Plane) (id : Nat) : Plane :=
  match p.ant? id with
  | none => p
  | some ant =>
    if !ant.alive then p
    else if 0 < ant.resting then p.changeAnt id fun a => { a with resting := a.resting - 1 }
    else match (p.brains.get ant.colony).get? ant.state with
      | none => p
      | some instruction =>
        let (p, next) := p.act id ant instruction
        p.changeAnt id fun a => { a with state := next }

/-- One round: every ant has its turn, in the order of their numbers. -/
def playRound (p : Plane) : Plane :=
  let p := (List.range p.ants.size).foldl takeTurn p
  { p with round := p.round + 1 }

/-- A number of rounds. -/
def playRounds : Nat → Plane → Plane
  | 0, p => p
  | n + 1, p => playRounds n p.playRound

/-! ### Views after a change -/

section Views

variable (p : Plane) (h k : Hex) (f : Cell → Cell)

/-- Only the cell changes that is named, and only if it is on the map. -/
theorem cellAt_changeCell :
    (p.changeCell h f).cellAt k =
      if h = k ∧ (p.cells.lookup k).isSome then f (p.cellAt k) else p.cellAt k := by
  cases found : p.cells.lookup h with
  | none =>
    rw [changeCell, found, if_neg]
    rintro ⟨rfl, onMap⟩
    rw [found] at onMap
    cases onMap
  | some cell =>
    rw [changeCell, found]
    by_cases same : h = k
    · subst same
      rw [if_pos ⟨rfl, by rw [found]; rfl⟩]
      simp only [cellAt, Finmap.lookup_insert, found, Option.getD_some]
    · rw [if_neg fun both => same both.1]
      simp only [cellAt, Finmap.lookup_insert_of_ne _ (Ne.symm same)]

theorem isSome_of_cellAt_ne (notBare : p.cellAt h ≠ .rock) : (p.cells.lookup h).isSome := by
  cases found : p.cells.lookup h with
  | none =>
    rw [cellAt, found] at notBare
    exact absurd rfl notBare
  | some cell => rfl

theorem changeCell_same :
    (p.changeCell h f).brains = p.brains ∧ (p.changeCell h f).ants = p.ants ∧
      (p.changeCell h f).dice = p.dice ∧ (p.changeCell h f).round = p.round ∧
      (p.changeCell h f).ledger = p.ledger := by
  rw [changeCell]
  cases p.cells.lookup h with
  | none => exact ⟨rfl, rfl, rfl, rfl, rfl⟩
  | some cell => exact ⟨rfl, rfl, rfl, rfl, rfl⟩

end Views

end Plane

end Formicary
