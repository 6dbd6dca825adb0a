/-
Module: Formicary.Battle.Surround
Purpose: The death of surrounded ants.
Main exports: surroundThreshold, corpseFood, Battle.adjacentFoes, Battle.kill, Battle.judge,
  Battle.judgeAround
-/
import Formicary.Battle

namespace Formicary

/-!
An ant with five or more foes next to it dies and leaves food behind. Only a step can bring an ant
into that plight: the one who steps, or one next to where it steps to. So the rule is applied to
these cells after every step and nowhere else.
-/

/-- Foes next to an ant that kill it. -/
def surroundThreshold : Nat := 5

/-- Food that a dead ant leaves, besides what it carried. -/
def corpseFood : Nat := 3

namespace Battle

/-- Whether an ant of the other colony stands on the cell of a slot. -/
def hasFoeOf (b : Battle) (c : Colony) (slot : Nat) : Bool :=
  (b.occupant? slot).any fun other => other.colony != c

/-- Number of foes of ant `id` next to a cell. -/
def adjacentFoes (b : Battle) (slot id : Nat) : Nat :=
  match b.ant? id with
  | none => 0
  | some ant => Direction.all.countP fun d => b.hasFoeOf ant.colony (b.layout.neighbor slot d)

/-- Kill an ant. Its cell gets the remains and the food it carried. -/
def kill (b : Battle) (id : Nat) : Battle :=
  match b.ant? id with
  | none => b
  | some ant =>
    let remains := corpseFood + ant.laden.toNat
    let owner := (b.cellAt ant.slot).owner
    let b := b.changeAnt id fun a => { a with alive := false, laden := false }
    let b := b.changeCell ant.slot fun c => { c with occupant := none, food := c.food + remains }
    b.changeLedger fun l =>
      let l := l.put owner remains
      if ant.laden then l.unload ant.colony else l

/-- Kill the ant on a cell if it is surrounded. -/
def judge (b : Battle) (slot : Nat) : Battle :=
  match (b.cellAt slot).occupant with
  | none => b
  | some id => if surroundThreshold ≤ b.adjacentFoes slot id then b.kill id else b

/-- Apply the rule to a cell and then to its neighbours, clockwise from east. -/
def judgeAround (b : Battle) (slot : Nat) : Battle :=
  Direction.all.foldl (fun b d => b.judge (b.layout.neighbor slot d)) (b.judge slot)

/-! ### Deaths take no time -/

@[simp] theorem round_kill (b : Battle) (id : Nat) : (b.kill id).round = b.round := by
  unfold kill; split <;> rfl

@[simp] theorem round_judge (b : Battle) (slot : Nat) : (b.judge slot).round = b.round := by
  unfold judge
  split
  · rfl
  · split <;> simp

@[simp] theorem round_judgeAround (b : Battle) (slot : Nat) :
    (b.judgeAround slot).round = b.round := by
  simp [judgeAround, Direction.all]

end Battle

end Formicary
