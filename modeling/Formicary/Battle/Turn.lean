/-
Module: Formicary.Battle.Turn
Purpose: What an ant does on its turn, and the rounds of a battle.
Main exports: moveRest, Battle.holds, Battle.act, Battle.takeTurn, Battle.playRound,
  Battle.playRounds
-/
import Formicary.Battle.Surround

namespace Formicary

/-- Rounds that an ant rests after a step. -/
def moveRest : Nat := 14

/-- The direction an ant faces after turning. -/
def Rotation.apply : Rotation → Direction → Direction
  | .left, d => d.left
  | .right, d => d.right

namespace Battle

/-! ### Senses -/

/-- The slot of the cell that an ant looks at. -/
def sensedSlot (l : Layout) (ant : Ant) : Gaze → Nat
  | .here => ant.slot
  | .ahead => l.neighbor ant.slot ant.facing
  | .leftAhead => l.neighbor ant.slot ant.facing.left
  | .rightAhead => l.neighbor ant.slot ant.facing.right

/-- Whether a condition holds of the cell of a slot, for an ant of colony `c`. -/
def holds (b : Battle) (c : Colony) (slot : Nat) : Condition → Bool
  | .friend => (b.occupant? slot).any fun a => a.colony == c
  | .foe => (b.occupant? slot).any fun a => a.colony != c
  | .friendWithFood => (b.occupant? slot).any fun a => a.colony == c && a.laden
  | .foeWithFood => (b.occupant? slot).any fun a => a.colony != c && a.laden
  | .food => decide (0 < (b.cellAt slot).food)
  | .rock => (b.cellAt slot).isRock
  | .marker m => ((b.cellAt slot).markers.get c).contains m
  | .foeMarker => !((b.cellAt slot).markers.get c.foe).isEmpty
  | .home => (b.cellAt slot).owner == some c
  | .foeHome => (b.cellAt slot).owner.any (· != c)

/-! ### Deeds -/

/-- Change the markers of an ant's colony on the ant's cell. -/
def changeMarkers (b : Battle) (ant : Ant) (f : MarkerSet → MarkerSet) : Battle :=
  b.changeCell ant.slot fun cell => { cell with markers := cell.markers.modify ant.colony f }

/-- An ant takes a piece of food from its cell. -/
def take (b : Battle) (id : Nat) (ant : Ant) : Battle :=
  let owner := (b.cellAt ant.slot).owner
  let b := b.changeCell ant.slot fun cell => { cell with food := cell.food - 1 }
  let b := b.changeLedger fun l => (l.take owner 1).load ant.colony
  b.changeAnt id fun a => { a with laden := true }

/-- A laden ant puts its food on its cell. -/
def put (b : Battle) (id : Nat) (ant : Ant) : Battle :=
  let owner := (b.cellAt ant.slot).owner
  let b := b.changeCell ant.slot fun cell => { cell with food := cell.food + 1 }
  let b := b.changeLedger fun l => (l.unload ant.colony).put owner 1
  b.changeAnt id fun a => { a with laden := false }

/-- Whether an ant may step on the cell of a slot. -/
def isFree (b : Battle) (slot : Nat) : Bool :=
  !(b.cellAt slot).isRock && (b.cellAt slot).occupant.isNone

/-- An ant steps from its cell to the cell of another slot, and has to rest. -/
def relocate (b : Battle) (id : Nat) (ant : Ant) (target : Nat) : Battle :=
  let b := b.changeCell ant.slot fun cell => { cell with occupant := none }
  let b := b.changeCell target fun cell => { cell with occupant := some id }
  b.changeAnt id fun a => { a with slot := target, resting := moveRest }

/-- The effect of an instruction that ant `id` carries out, and the ant's next state. -/
def act (b : Battle) (id : Nat) (ant : Ant) : Instruction → Battle × State
  | .sense gaze ifTrue ifFalse condition =>
    if b.holds ant.colony (sensedSlot b.layout ant gaze) condition then (b, ifTrue)
    else (b, ifFalse)
  | .mark marker next => (b.changeMarkers ant (·.insert marker), next)
  | .unmark marker next => (b.changeMarkers ant (·.erase marker), next)
  | .pickUp ifTaken ifNot =>
    if ant.laden || (b.cellAt ant.slot).food == 0 then (b, ifNot) else (b.take id ant, ifTaken)
  | .drop next => (if ant.laden then b.put id ant else b, next)
  | .turn rotation next =>
    (b.changeAnt id fun a => { a with facing := rotation.apply ant.facing }, next)
  | .move ifMoved ifBlocked =>
    let target := b.layout.neighbor ant.slot ant.facing
    if b.isFree target then ((b.relocate id ant target).judgeAround target, ifMoved)
    else (b, ifBlocked)
  | .flip odds ifZero ifOther =>
    let (n, dice) := b.dice.roll odds
    ({ b with dice }, if n = 0 then ifZero else ifOther)

/-! ### Rounds -/

/-- The turn of an ant: the dead do nothing, the tired rest, and the others carry out the
instruction of their state. -/
def takeTurn (b : Battle) (id : Nat) : Battle :=
  match b.ant? id with
  | none => b
  | some ant =>
    if !ant.alive then b
    else if 0 < ant.resting then b.changeAnt id fun a => { a with resting := a.resting - 1 }
    else match (b.brains.get ant.colony).get? ant.state with
      | none => b
      | some instruction =>
        let (b, next) := b.act id ant instruction
        b.changeAnt id fun a => { a with state := next }

/-- One round: every ant has its turn, in the order of their numbers. -/
def playRound (b : Battle) : Battle :=
  let b := (List.range b.ants.size).foldl takeTurn b
  { b with round := b.round + 1 }

/-- A number of rounds. -/
def playRounds : Nat → Battle → Battle
  | 0, b => b
  | n + 1, b => playRounds n b.playRound

/-! ### Time passes with the rounds only -/

theorem round_relocate (b : Battle) (id : Nat) (ant : Ant) (target : Nat) :
    (b.relocate id ant target).round = b.round := rfl

@[simp] theorem round_act (b : Battle) (id : Nat) (ant : Ant) (i : Instruction) :
    (b.act id ant i).1.round = b.round := by
  cases i with
  | sense gaze ifTrue ifFalse condition => simp only [act]; split <;> rfl
  | mark marker next => rfl
  | unmark marker next => rfl
  | pickUp ifTaken ifNot => simp only [act]; split <;> rfl
  | drop next => simp only [act]; split <;> rfl
  | turn rotation next => rfl
  | move ifMoved ifBlocked =>
    simp only [act]
    split
    · simp only [round_judgeAround, round_relocate]
    · rfl
  | flip odds ifZero ifOther => simp only [act]

@[simp] theorem round_takeTurn (b : Battle) (id : Nat) : (b.takeTurn id).round = b.round := by
  unfold takeTurn
  split
  · rfl
  · split
    · rfl
    · split
      · rfl
      · split
        · rfl
        · simp only [changeAnt, round_act]

theorem round_foldl_takeTurn (ids : List Nat) (b : Battle) :
    (ids.foldl takeTurn b).round = b.round := by
  induction ids generalizing b with
  | nil => rfl
  | cons id ids ih => rw [List.foldl_cons, ih, round_takeTurn]

@[simp] theorem round_playRound (b : Battle) : b.playRound.round = b.round + 1 := by
  simp only [playRound, round_foldl_takeTurn]

@[simp] theorem round_playRounds (n : Nat) (b : Battle) :
    (playRounds n b).round = b.round + n := by
  induction n generalizing b with
  | zero => rfl
  | succ n ih => rw [playRounds, ih, round_playRound]; omega

end Battle

end Formicary
