/-
Module: Formicary.Proofs.Guarded
Purpose: The rounds of a battle with every operation written out that can fail: positions in lists,
  differences and sums of unsigned words, and odds of nothing.
Main exports: Hazard, Guarded.kill, Guarded.judgeAround, Guarded.act, Guarded.takeTurn,
  Guarded.playRound, Guarded.playRounds
-/
import Formicary.Battle.Turn

namespace Formicary

/-! ### Changes that come to the same -/

/-- A change is known by what it makes of the one element that it is about. -/
theorem modify_congr {α : Type} {xs : Array α} {i : Nat} {f g : α → α}
    (same : ∀ x, xs[i]? = some x → f x = g x) : xs.modify i f = xs.modify i g := by
  apply Array.ext_getElem?
  intro j
  rw [Array.getElem?_modify, Array.getElem?_modify]
  split
  · rename_i this
    subst this
    exact Option.map_congr same
  · rfl

namespace Battle

variable {b : Battle}

theorem changeCell_congr {slot : Nat} {f g : Cell → Cell}
    (same : f (b.cellAt slot) = g (b.cellAt slot)) : b.changeCell slot f = b.changeCell slot g := by
  rw [changeCell, modify_congr (g := g)]
  · rfl
  · intro cell found
    have here : b.cellAt slot = cell := by
      rw [cellAt, found]
      rfl
    rwa [here] at same

theorem changeAnt_congr {id : Nat} {ant : Ant} {f g : Ant → Ant} (present : b.ant? id = some ant)
    (same : f ant = g ant) : b.changeAnt id f = b.changeAnt id g := by
  rw [changeAnt, modify_congr (g := g)]
  · rfl
  · intro ant' found
    cases present.symm.trans found
    exact same

end Battle

/-!
### Hazards

The numbers of a battle are natural numbers, and what its lists hold is asked for with a default.
Below the same rounds are played on words of their widths and with positions that must exist. An
operation without a result ends the battle with a hazard.
-/

/-- An operation that has no result. -/
inductive Hazard where
  /-- The board has no such slot. -/
  | noCell (slot : Nat)
  /-- There is no ant of this number. -/
  | noAnt (id : Nat)
  /-- There is no such direction. -/
  | noDirection (d : Nat)
  /-- The brain has no instruction for the state. -/
  | noInstruction (s : State)
  /-- The difference of two words is below zero. -/
  | belowZero (m n : Nat)
  /-- The sum of two words does not fit a word of their width. -/
  | overflow (m n : Nat)
  /-- No number is below zero to be rolled. -/
  | noOdds
deriving DecidableEq, Repr

namespace Guarded

/-- A chain of operations has a result if each of them has. -/
theorem bind_eq_ok {ε α β : Type} {x : Except ε α} {f : α → Except ε β} {a : α} {b : β}
    (first : x = .ok a) (next : f a = .ok b) : (x >>= f) = .ok b := by
  rw [first]
  exact next

/-! ### Lists and words -/

/-- The element at a position, which must be there. -/
def elem {α : Type} (xs : Array α) (i : Nat) (hazard : Hazard) : Except Hazard α :=
  match xs[i]? with
  | some x => .ok x
  | none => .error hazard

/-- The difference of two words. -/
def sub (m n : Nat) : Except Hazard Nat :=
  if n ≤ m then .ok (m - n) else .error (.belowZero m n)

/-- The sum of two words of a width with `size` words. -/
def add (size m n : Nat) : Except Hazard Nat :=
  if m + n < size then .ok (m + n) else .error (.overflow m n)

theorem elem_eq {α : Type} {xs : Array α} {i : Nat} {x : α} (found : xs[i]? = some x)
    (hazard : Hazard) : elem xs i hazard = .ok x := by
  rw [elem, found]

theorem sub_eq {m n : Nat} (le : n ≤ m) : sub m n = .ok (m - n) := if_pos le

theorem add_eq {size m n : Nat} (fits : m + n < size) : add size m n = .ok (m + n) := if_pos fits

/-! ### The board and the ants -/

/-- The cell of a slot. -/
def cellOf (b : Battle) (slot : Nat) : Except Hazard Cell := elem b.cells slot (.noCell slot)

/-- The ant of a number. -/
def antOf (b : Battle) (id : Nat) : Except Hazard Ant := elem b.ants id (.noAnt id)

/-- Change the cell of a slot. -/
def changeCell (b : Battle) (slot : Nat) (f : Cell → Cell) : Except Hazard Battle := do
  let cell ← cellOf b slot
  return b.changeCell slot fun _ => f cell

/-- Change an ant. -/
def changeAnt (b : Battle) (id : Nat) (f : Ant → Ant) : Except Hazard Battle := do
  let ant ← antOf b id
  return b.changeAnt id fun _ => f ant

/-- The slot one step away, in the direction of a number. -/
def neighbor (f : Frame) (slot d : Nat) : Except Hazard Nat := do
  let offset ← elem (Direction.all.map f.offset).toArray d (.noDirection d)
  return ((slot + offset) % UInt64.size).toNat

section Views

variable {b : Battle} {slot id : Nat}

theorem cellOf_eq (onBoard : slot < b.cells.size) : cellOf b slot = .ok (b.cellAt slot) := by
  apply elem_eq
  simp [Battle.cellAt, onBoard]

theorem antOf_eq {ant : Ant} (present : b.ant? id = some ant) : antOf b id = .ok ant :=
  elem_eq present _

theorem changeCell_eq (onBoard : slot < b.cells.size) (f : Cell → Cell) :
    changeCell b slot f = .ok (b.changeCell slot f) := by
  apply bind_eq_ok (cellOf_eq onBoard)
  exact congrArg Except.ok (Battle.changeCell_congr rfl)

theorem changeAnt_eq {ant : Ant} (present : b.ant? id = some ant) (f : Ant → Ant) :
    changeAnt b id f = .ok (b.changeAnt id f) := by
  apply bind_eq_ok (antOf_eq present)
  exact congrArg Except.ok (Battle.changeAnt_congr present rfl)

theorem neighbor_eq (f : Frame) (slot : Nat) (d : Direction) :
    neighbor f slot d.val = .ok (f.neighbor slot d) := by
  have listed : Direction.all[d.val]? = some d := by revert d; decide
  have found : (Direction.all.map f.offset).toArray[d.val]? = some (f.offset d) := by
    rw [List.getElem?_toArray, List.getElem?_map, listed]
    rfl
  exact bind_eq_ok (elem_eq found _) rfl

end Views

/-! ### The account of the food, in words of 64 bits -/

/-- Enter what lies on the cells of an owner. -/
def enter (l : Ledger) (owner : Option Colony) (food : Nat) : Ledger :=
  match owner with
  | some c => { l with hill := l.hill.modify c fun _ => food }
  | none => { l with unclaimed := food }

/-- Food is put on a cell with the given owner. -/
def putOn (l : Ledger) (owner : Option Colony) (amount : Nat) : Except Hazard Ledger := do
  return enter l owner (← add UInt64.size (l.lying owner) amount)

/-- Food is taken from a cell with the given owner. -/
def takeFrom (l : Ledger) (owner : Option Colony) (amount : Nat) : Except Hazard Ledger := do
  return enter l owner (← sub (l.lying owner) amount)

/-- A colony's ants carry one piece more. -/
def load (l : Ledger) (c : Colony) : Except Hazard Ledger := do
  let food ← add UInt64.size (l.carried.get c) 1
  return { l with carried := l.carried.modify c fun _ => food }

/-- A colony's ants carry one piece less. -/
def unload (l : Ledger) (c : Colony) : Except Hazard Ledger := do
  let food ← sub (l.carried.get c) 1
  return { l with carried := l.carried.modify c fun _ => food }

section Account

variable {l : Ledger} {owner : Option Colony} {c : Colony} {amount : Nat}

theorem putOn_eq (fits : l.lying owner + amount < UInt64.size) :
    putOn l owner amount = .ok (l.put owner amount) := by
  apply bind_eq_ok (add_eq fits)
  rcases owner with _ | _ | _ <;> rfl

theorem takeFrom_eq (le : amount ≤ l.lying owner) :
    takeFrom l owner amount = .ok (l.take owner amount) := by
  apply bind_eq_ok (sub_eq le)
  rcases owner with _ | _ | _ <;> rfl

theorem load_eq (fits : l.carried.get c + 1 < UInt64.size) : load l c = .ok (l.load c) := by
  apply bind_eq_ok (add_eq fits)
  cases c <;> rfl

theorem unload_eq (le : 1 ≤ l.carried.get c) : unload l c = .ok (l.unload c) := by
  apply bind_eq_ok (sub_eq le)
  cases c <;> rfl

end Account

/-! ### The surround rule -/

/-- Whether an ant of the other colony stands on the cell of a slot. -/
def hasFoeOf (b : Battle) (c : Colony) (slot : Nat) : Except Hazard Bool := do
  let cell ← cellOf b slot
  match cell.occupant with
  | none => return false
  | some id => return (← antOf b id).colony != c

/-- Number of foes of ant `id` next to a cell. -/
def adjacentFoes (b : Battle) (slot id : Nat) : Except Hazard Nat := do
  let ant ← antOf b id
  let foes ← (List.range 6).mapM fun d => do
    hasFoeOf b ant.colony (← neighbor b.layout.toFrame slot d)
  return foes.count true

/-- Kill an ant. Food on a cell is a word of 32 bits. -/
def kill (b : Battle) (id : Nat) : Except Hazard Battle := do
  let ant ← antOf b id
  let b ← changeAnt b id fun a => { a with alive := false, laden := false }
  let cell ← cellOf b ant.slot
  let remains ← add UInt32.size corpseFood ant.laden.toNat
  let food ← add UInt32.size cell.food remains
  let b ← changeCell b ant.slot fun c => { c with occupant := none, food }
  let ledger ← putOn b.ledger cell.owner remains
  if ant.laden then
    let ledger ← unload ledger ant.colony
    return b.changeLedger fun _ => ledger
  else return b.changeLedger fun _ => ledger

/-- Kill the ant on a cell if it is surrounded. -/
def judge (b : Battle) (slot : Nat) : Except Hazard Battle := do
  let cell ← cellOf b slot
  match cell.occupant with
  | none => return b
  | some id => if surroundThreshold ≤ (← adjacentFoes b slot id) then kill b id else return b

/-- Apply the rule to a cell and then to its neighbours, clockwise from east. -/
def judgeAround (b : Battle) (slot : Nat) : Except Hazard Battle := do
  let b ← judge b slot
  (List.range 6).foldlM (fun b d => do judge b (← neighbor b.layout.toFrame slot d)) b

/-! ### Turns -/

/-- The slot of the cell that an ant looks at. -/
def sensedSlot (l : Layout) (ant : Ant) : Gaze → Except Hazard Nat
  | .here => return ant.slot
  | .ahead => neighbor l.toFrame ant.slot ant.facing.val
  | .leftAhead => neighbor l.toFrame ant.slot ((ant.facing.val + 5) % 6)
  | .rightAhead => neighbor l.toFrame ant.slot ((ant.facing.val + 1) % 6)

theorem sensedSlot_eq (l : Layout) (ant : Ant) (gaze : Gaze) :
    sensedSlot l ant gaze = .ok (Battle.sensedSlot l ant gaze) := by
  cases gaze with
  | here => rfl
  | ahead => exact neighbor_eq l.toFrame ant.slot ant.facing
  | leftAhead => exact neighbor_eq l.toFrame ant.slot ant.facing.left
  | rightAhead => exact neighbor_eq l.toFrame ant.slot ant.facing.right

/-- Whether a condition holds of the cell of a slot, for an ant of colony `c`. The ant on the cell
is looked up whatever the condition. -/
def holds (b : Battle) (c : Colony) (slot : Nat) (condition : Condition) : Except Hazard Bool := do
  let cell ← cellOf b slot
  let occupant ← cell.occupant.mapM (antOf b)
  return match condition with
    | .friend => occupant.any fun a => a.colony == c
    | .foe => occupant.any fun a => a.colony != c
    | .friendWithFood => occupant.any fun a => a.colony == c && a.laden
    | .foeWithFood => occupant.any fun a => a.colony != c && a.laden
    | .food => decide (0 < cell.food)
    | .rock => cell.isRock
    | .marker m => (cell.markers.get c).contains m
    | .foeMarker => !(cell.markers.get c.foe).isEmpty
    | .home => cell.owner == some c
    | .foeHome => cell.owner.any (· != c)

/-- Change the markers of an ant's colony on the ant's cell. -/
def changeMarkers (b : Battle) (ant : Ant) (f : MarkerSet → MarkerSet) : Except Hazard Battle :=
  changeCell b ant.slot fun cell => { cell with markers := cell.markers.modify ant.colony f }

/-- An ant takes a piece of food from its cell. -/
def take (b : Battle) (id : Nat) (ant : Ant) : Except Hazard Battle := do
  let cell ← cellOf b ant.slot
  let food ← sub cell.food 1
  let b ← changeCell b ant.slot fun cell => { cell with food }
  let ledger ← takeFrom b.ledger cell.owner 1
  let ledger ← load ledger ant.colony
  changeAnt (b.changeLedger fun _ => ledger) id fun a => { a with laden := true }

/-- A laden ant puts its food on its cell. -/
def put (b : Battle) (id : Nat) (ant : Ant) : Except Hazard Battle := do
  let cell ← cellOf b ant.slot
  let food ← add UInt32.size cell.food 1
  let b ← changeCell b ant.slot fun cell => { cell with food }
  let ledger ← unload b.ledger ant.colony
  let ledger ← putOn ledger cell.owner 1
  changeAnt (b.changeLedger fun _ => ledger) id fun a => { a with laden := false }

/-- The direction an ant faces after turning. Directions are counted in words of eight bits. -/
def turned (d : Direction) (r : Rotation) : Except Hazard Direction := do
  let sum ← add UInt8.size d.val (match r with | .left => 5 | .right => 1)
  return Fin.ofNat 6 sum

theorem turned_eq (d : Direction) (r : Rotation) : turned d r = .ok (r.apply d) := by
  have fits (n : Nat) (small : n ≤ 5) : d.val + n < UInt8.size := by
    have direction := d.isLt
    simp only [UInt8.size]
    omega
  cases r with
  | left => exact bind_eq_ok (add_eq (fits 5 (Nat.le_refl 5))) rfl
  | right => exact bind_eq_ok (add_eq (fits 1 (by decide))) rfl

/-- An ant steps from its cell to the cell of another slot, and has to rest. -/
def relocate (b : Battle) (id : Nat) (ant : Ant) (target : Nat) : Except Hazard Battle := do
  let b ← changeCell b ant.slot fun cell => { cell with occupant := none }
  let b ← changeCell b target fun cell => { cell with occupant := some id }
  changeAnt b id fun a => { a with slot := target, resting := moveRest }

/-- Roll a number below `n`. -/
def roll (dice : Dice) (n : Nat) : Except Hazard (Nat × Dice) :=
  if n = 0 then .error .noOdds else .ok (dice.roll n)

theorem roll_eq {n : Nat} (pos : 0 < n) (dice : Dice) : roll dice n = .ok (dice.roll n) :=
  if_neg (Nat.ne_of_gt pos)

/-- The effect of an instruction that ant `id` carries out, and the ant's next state. -/
def act (b : Battle) (id : Nat) (i : Instruction) : Except Hazard (Battle × State) := do
  let ant ← antOf b id
  match i with
  | .sense gaze ifTrue ifFalse condition =>
    let target ← sensedSlot b.layout ant gaze
    return (b, if ← holds b ant.colony target condition then ifTrue else ifFalse)
  | .mark marker next => return (← changeMarkers b ant (·.insert marker), next)
  | .unmark marker next => return (← changeMarkers b ant (·.erase marker), next)
  | .pickUp ifTaken ifNot =>
    let cell ← cellOf b ant.slot
    if ant.laden || cell.food == 0 then return (b, ifNot)
    else return (← take b id ant, ifTaken)
  | .drop next =>
    if ant.laden then return (← put b id ant, next)
    else return (b, next)
  | .turn rotation next =>
    let facing ← turned ant.facing rotation
    return (← changeAnt b id fun a => { a with facing }, next)
  | .move ifMoved ifBlocked =>
    let target ← neighbor b.layout.toFrame ant.slot ant.facing.val
    let cell ← cellOf b target
    if cell.isRock || cell.occupant.isSome then return (b, ifBlocked)
    else
      let b ← relocate b id ant target
      return (← judgeAround b target, ifMoved)
  | .flip odds ifZero ifOther =>
    let (n, dice) ← roll b.dice odds
    return ({ b with dice }, if n = 0 then ifZero else ifOther)

/-- The turn of an ant: the dead do nothing, the tired rest, and the others carry out the
instruction of their state. -/
def takeTurn (b : Battle) (id : Nat) : Except Hazard Battle := do
  let ant ← antOf b id
  if !ant.alive then return b
  else if 0 < ant.resting then
    let resting ← sub ant.resting 1
    changeAnt b id fun a => { a with resting }
  else
    let i ← elem (b.brains.get ant.colony).instructions ant.state (.noInstruction ant.state)
    let (b, next) ← act b id i
    changeAnt b id fun a => { a with state := next }

/-! ### Rounds -/

/-- One round: every ant has its turn, in the order of their numbers. Rounds are counted in words of
64 bits. -/
def playRound (b : Battle) : Except Hazard Battle := do
  let b ← (List.range b.ants.size).foldlM takeTurn b
  let round ← add UInt64.size b.round 1
  return { b with round }

/-- A number of rounds. -/
def playRounds : Nat → Battle → Except Hazard Battle
  | 0, b => return b
  | n + 1, b => do playRounds n (← playRound b)

end Guarded

end Formicary
