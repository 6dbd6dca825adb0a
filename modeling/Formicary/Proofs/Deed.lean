/-
Module: Formicary.Proofs.Deed
Purpose: All that can happen in a battle as a few elementary changes with their guards, and every
  turn as a chain of them.
Main exports: Battle.Quiet, Battle.Deed, Battle.Lasting, Battle.SameGround, Battle.Turn,
  Battle.turn_takeTurn, Battle.stride?, Battle.deeds_takeTurn
-/
import Mathlib.Logic.Relation
import Formicary.Battle.Turn

namespace Formicary

/-- Changing an element and then mapping is mapping and then making the image of the change. -/
theorem map_modify_of_comm {α β : Type} {g : α → β} {f : α → α} {f' : β → β}
    (comm : ∀ a, g (f a) = f' (g a)) (xs : Array α) (i : Nat) :
    (xs.modify i f).map g = (xs.map g).modify i f' := by
  apply Array.ext_getElem?
  intro j
  simp only [Array.getElem?_map, Array.getElem?_modify]
  split
  · simp only [Option.map_map, Function.comp_def, comm]
  · rfl

namespace Battle

open Relation (ReflTransGen)

/-!
### Elementary changes

A turn changes a battle in several places one after the other. The changes below are the pieces; an
invariant of all battles needs one case for each of them, and none for a whole turn. Between two
pieces of one turn the invariants hold as well.
-/

/-- A change that moves nobody and kills nobody. -/
inductive Quiet : Battle → Battle → Prop where
  /-- A tired ant rests for a round. -/
  | rest {b : Battle} {id : Nat} {ant : Ant} (present : b.ant? id = some ant)
      (alive : ant.alive) (tired : 0 < ant.resting) :
      Quiet b (b.changeAnt id fun a => { a with resting := a.resting - 1 })
  /-- An ant enters a state of its brain. Also an ant that died on its own turn does so. -/
  | think {b : Battle} {id : Nat} {next : State}
      (known : ∀ ant, b.ant? id = some ant → next < (b.brains.get ant.colony).size) :
      Quiet b (b.changeAnt id fun a => { a with state := next })
  | mark {b : Battle} {id : Nat} {ant : Ant} (present : b.ant? id = some ant)
      (alive : ant.alive) (f : MarkerSet → MarkerSet) :
      Quiet b (b.changeMarkers ant f)
  | take {b : Battle} {id : Nat} {ant : Ant} (present : b.ant? id = some ant)
      (alive : ant.alive) (unladen : ant.laden = false) (food : 0 < (b.cellAt ant.slot).food) :
      Quiet b (b.take id ant)
  | put {b : Battle} {id : Nat} {ant : Ant} (present : b.ant? id = some ant)
      (alive : ant.alive) (laden : ant.laden) :
      Quiet b (b.put id ant)
  | turn {b : Battle} {id : Nat} (d : Direction) :
      Quiet b (b.changeAnt id fun a => { a with facing := d })
  | roll {b : Battle} (dice : Dice) : Quiet b { b with dice }
  /-- A round ends. -/
  | pass {b : Battle} : Quiet b { b with round := b.round + 1 }

/-- An elementary change. -/
inductive Deed : Battle → Battle → Prop where
  | quiet {b b' : Battle} (change : Quiet b b') : Deed b b'
  /-- A living ant steps to the cell ahead. -/
  | move {b : Battle} {id : Nat} {ant : Ant} (present : b.ant? id = some ant)
      (alive : ant.alive) (free : b.isFree (b.layout.neighbor ant.slot ant.facing)) :
      Deed b (b.relocate id ant (b.layout.neighbor ant.slot ant.facing))
  /-- A surrounded ant dies. -/
  | die {b : Battle} {slot id : Nat} (named : (b.cellAt slot).occupant = some id)
      (surrounded : surroundThreshold ≤ b.adjacentFoes slot id) :
      Deed b (b.kill id)

/-! ### Views after a step and after a death -/

theorem cellAt_relocate (b : Battle) (id : Nat) (ant : Ant) (target s : Nat) :
    (b.relocate id ant target).cellAt s =
      { b.cellAt s with
        occupant :=
          if target = s ∧ s < b.cells.size then some id
          else if ant.slot = s ∧ s < b.cells.size then none
          else (b.cellAt s).occupant } := by
  simp only [relocate, cellAt_changeAnt, cellAt_changeCell, size_cells_changeCell]
  split <;> split <;> rfl

theorem ant?_relocate (b : Battle) (id : Nat) (ant : Ant) (target j : Nat) :
    (b.relocate id ant target).ant? j =
      if id = j then (b.ant? j).map fun a => { a with slot := target, resting := moveRest }
      else b.ant? j := by
  simp only [relocate, ant?_changeAnt, ant?_changeCell]

/-- The death of an ant, laid open. -/
theorem kill_eq {b : Battle} {id : Nat} {ant : Ant} (present : b.ant? id = some ant) :
    b.kill id =
      ((b.changeAnt id fun a => { a with alive := false, laden := false }).changeCell ant.slot
        fun c => { c with occupant := none, food := c.food + (corpseFood + ant.laden.toNat) }
      ).changeLedger fun l =>
        if ant.laden then
          (l.put (b.cellAt ant.slot).owner (corpseFood + ant.laden.toNat)).unload ant.colony
        else l.put (b.cellAt ant.slot).owner (corpseFood + ant.laden.toNat) := by
  simp only [kill, present]

theorem kill_of_absent {b : Battle} {id : Nat} (absent : b.ant? id = none) : b.kill id = b := by
  simp only [kill, absent]

theorem judge_of_named {b : Battle} {slot id : Nat} (named : (b.cellAt slot).occupant = some id) :
    b.judge slot = if 5 ≤ b.adjacentFoes slot id then b.kill id else b := by
  simp only [judge, named]
  rfl

theorem cellAt_kill {b : Battle} {id : Nat} {ant : Ant} (present : b.ant? id = some ant)
    (s : Nat) :
    (b.kill id).cellAt s =
      if ant.slot = s ∧ s < b.cells.size then
        { b.cellAt s with
          occupant := none, food := (b.cellAt s).food + (corpseFood + ant.laden.toNat) }
      else b.cellAt s := by
  rw [kill_eq present, cellAt_changeLedger, cellAt_changeCell]
  rfl

theorem ant?_kill {b : Battle} {id : Nat} {ant : Ant} (present : b.ant? id = some ant) (j : Nat) :
    (b.kill id).ant? j =
      if id = j then some { ant with alive := false, laden := false } else b.ant? j := by
  rw [kill_eq present, ant?_changeLedger, ant?_changeCell, ant?_changeAnt]
  split
  · rename_i this
    rw [← this, present]
    rfl
  · rfl

/-! ### What outlasts every change -/

/-- The parts of a battle that no change touches. -/
structure Lasting (b b' : Battle) : Prop where
  layout : b'.layout = b.layout
  brains : b'.brains = b.brains
  seed : b'.seed = b.seed
  mustered : b'.mustered = b.mustered
  size : b'.ants.size = b.ants.size
  colony : ∀ id, (b'.ant? id).map Ant.colony = (b.ant? id).map Ant.colony

namespace Lasting

theorem refl (b : Battle) : Lasting b b := ⟨rfl, rfl, rfl, rfl, rfl, fun _ => rfl⟩

theorem trans {a b c : Battle} (first : Lasting a b) (second : Lasting b c) : Lasting a c where
  layout := second.layout.trans first.layout
  brains := second.brains.trans first.brains
  seed := second.seed.trans first.seed
  mustered := second.mustered.trans first.mustered
  size := second.size.trans first.size
  colony id := (second.colony id).trans (first.colony id)

theorem changeAnt (b : Battle) (id : Nat) {f : Ant → Ant} (same : ∀ a, (f a).colony = a.colony) :
    Lasting b (b.changeAnt id f) where
  layout := rfl
  brains := rfl
  seed := rfl
  mustered := rfl
  size := Array.size_modify
  colony j := by
    rw [ant?_changeAnt]
    split
    · rw [Option.map_map]
      exact congrArg (Option.map · (b.ant? j)) (funext same)
    · rfl

theorem changeCell (b : Battle) (slot : Nat) (f : Cell → Cell) : Lasting b (b.changeCell slot f) :=
  ⟨rfl, rfl, rfl, rfl, rfl, fun _ => rfl⟩

theorem changeLedger (b : Battle) (f : Ledger → Ledger) : Lasting b (b.changeLedger f) :=
  ⟨rfl, rfl, rfl, rfl, rfl, fun _ => rfl⟩

end Lasting

theorem Quiet.lasting {b b' : Battle} (change : Quiet b b') : Lasting b b' := by
  cases change with
  | rest => exact .changeAnt b _ fun _ => rfl
  | think => exact .changeAnt b _ fun _ => rfl
  | mark => exact .changeCell b _ _
  | take =>
    exact ((Lasting.changeCell b _ _).trans (.changeLedger _ _)).trans (.changeAnt _ _ fun _ => rfl)
  | put =>
    exact ((Lasting.changeCell b _ _).trans (.changeLedger _ _)).trans (.changeAnt _ _ fun _ => rfl)
  | turn => exact .changeAnt b _ fun _ => rfl
  | roll => exact ⟨rfl, rfl, rfl, rfl, rfl, fun _ => rfl⟩
  | pass => exact ⟨rfl, rfl, rfl, rfl, rfl, fun _ => rfl⟩

theorem lasting_relocate (b : Battle) (id : Nat) (ant : Ant) (target : Nat) :
    Lasting b (b.relocate id ant target) :=
  ((Lasting.changeCell b _ _).trans (.changeCell _ _ _)).trans (.changeAnt _ _ fun _ => rfl)

theorem lasting_kill (b : Battle) (id : Nat) : Lasting b (b.kill id) := by
  cases present : b.ant? id with
  | none =>
    rw [kill_of_absent present]
    exact .refl b
  | some ant =>
    rw [kill_eq present]
    refine .trans (.trans (.changeAnt b id ?same) (.changeCell _ _ _)) (.changeLedger _ _)
    exact fun _ => rfl

theorem Deed.lasting {b b' : Battle} (deed : Deed b b') : Lasting b b' := by
  cases deed with
  | quiet change => exact change.lasting
  | move => exact lasting_relocate b _ _ _
  | die => exact lasting_kill b _

theorem lasting_of_deeds {b b' : Battle} (deeds : ReflTransGen Deed b b') : Lasting b b' := by
  induction deeds with
  | refl => exact .refl b
  | tail _ deed ih => exact ih.trans deed.lasting

/-- The parts of the board that no change touches. -/
structure SameGround (b b' : Battle) : Prop where
  size : b'.cells.size = b.cells.size
  isRock : ∀ s, (b'.cellAt s).isRock = (b.cellAt s).isRock
  owner : ∀ s, (b'.cellAt s).owner = (b.cellAt s).owner

namespace SameGround

theorem of_cells {b b' : Battle} (same : b'.cells = b.cells) : SameGround b b' := by
  have cell (s : Nat) : b'.cellAt s = b.cellAt s := by rw [cellAt, cellAt, same]
  exact ⟨by rw [same], fun s => by rw [cell], fun s => by rw [cell]⟩

theorem trans {a b c : Battle} (first : SameGround a b) (second : SameGround b c) :
    SameGround a c where
  size := second.size.trans first.size
  isRock s := (second.isRock s).trans (first.isRock s)
  owner s := (second.owner s).trans (first.owner s)

theorem changeCell (b : Battle) (slot : Nat) {f : Cell → Cell}
    (same : ∀ c, (f c).isRock = c.isRock ∧ (f c).owner = c.owner) :
    SameGround b (b.changeCell slot f) where
  size := size_cells_changeCell b slot f
  isRock s := by
    rw [cellAt_changeCell]
    split
    · exact (same _).1
    · rfl
  owner s := by
    rw [cellAt_changeCell]
    split
    · exact (same _).2
    · rfl

theorem changeAnt (b : Battle) (id : Nat) (f : Ant → Ant) : SameGround b (b.changeAnt id f) :=
  .of_cells rfl

theorem changeLedger (b : Battle) (f : Ledger → Ledger) : SameGround b (b.changeLedger f) :=
  .of_cells rfl

end SameGround

/-- Rock and anthills stay where they are. -/
theorem Deed.sameGround {b b' : Battle} (deed : Deed b b') : SameGround b b' := by
  cases deed with
  | quiet change =>
    cases change with
    | mark => exact .changeCell b _ fun _ => ⟨rfl, rfl⟩
    | take | put =>
      refine .trans (.trans (.changeCell b _ ?_) (.changeLedger _ _)) (.changeAnt _ _ _)
      exact fun _ => ⟨rfl, rfl⟩
    | rest | think | turn => exact .changeAnt b _ _
    | roll | pass => exact .of_cells rfl
  | move =>
    refine .trans (.trans (.changeCell b _ ?left) (.changeCell _ _ ?entered)) (.changeAnt _ _ _)
    all_goals exact fun _ => ⟨rfl, rfl⟩
  | @die slot id named surrounded =>
    cases present : b.ant? id with
    | none =>
      rw [kill_of_absent present]
      exact .of_cells rfl
    | some ant =>
      rw [kill_eq present]
      refine .trans (.trans (.changeAnt b id _) (.changeCell _ _ ?corpse)) (.changeLedger _ _)
      exact fun _ => ⟨rfl, rfl⟩

theorem sameGround_of_deeds {b b' : Battle} (deeds : ReflTransGen Deed b b') : SameGround b b' := by
  induction deeds with
  | refl => exact .of_cells rfl
  | tail _ deed ih => exact ih.trans deed.sameGround

/-- What every elementary change preserves, every chain of them preserves. -/
theorem deeds_preserve {P : Battle → Prop} {b b' : Battle}
    (preserves : ∀ b b', P b → Deed b b' → P b') (first : P b) (deeds : ReflTransGen Deed b b') :
    P b' := by
  induction deeds with
  | refl => exact first
  | tail _ deed ih => exact preserves _ _ ih deed

/-! ### Turns -/

/-- What the turn of ant `id` comes to. -/
inductive Turn (b : Battle) (id : Nat) : Battle → Prop where
  /-- There is no such ant, it is dead, or its state has no instruction. -/
  | idle (barred : ∀ ant, b.ant? id = some ant → ant.alive →
      ant.resting = 0 ∧ (b.brains.get ant.colony).get? ant.state = none) :
      Turn b id b
  | rest {ant : Ant} (present : b.ant? id = some ant) (alive : ant.alive)
      (tired : 0 < ant.resting) :
      Turn b id (b.changeAnt id fun a => { a with resting := a.resting - 1 })
  | obey {ant : Ant} {i : Instruction} (present : b.ant? id = some ant) (alive : ant.alive)
      (rested : ant.resting = 0) (told : (b.brains.get ant.colony).get? ant.state = some i) :
      Turn b id ((b.act id ant i).1.changeAnt id fun a => { a with state := (b.act id ant i).2 })

theorem turn_takeTurn (b : Battle) (id : Nat) : Turn b id (b.takeTurn id) := by
  unfold takeTurn
  cases present : b.ant? id with
  | none => exact .idle (by simp [present])
  | some ant =>
    dsimp only
    split
    · exact .idle (by simp_all)
    · rename_i dead
      have alive : ant.alive := by simpa using dead
      split
      · rename_i tired
        exact .rest present alive tired
      · rename_i tired
        have rested : ant.resting = 0 := Nat.eq_zero_of_not_pos tired
        cases told : (b.brains.get ant.colony).get? ant.state with
        | none => exact .idle (by simp [present, rested, told])
        | some i => exact .obey present alive rested told

/-- The turn of a living ant that does not rest is the instruction of its state. -/
theorem takeTurn_of_told {b : Battle} {id : Nat} {ant : Ant} {i : Instruction}
    (present : b.ant? id = some ant) (alive : ant.alive) (rested : ant.resting = 0)
    (told : (b.brains.get ant.colony).get? ant.state = some i) :
    b.takeTurn id =
      (b.act id ant i).1.changeAnt id fun a => { a with state := (b.act id ant i).2 } := by
  simp [takeTurn, present, alive, rested, told]

/-- Whether an instruction makes an ant step. -/
def strides (b : Battle) (ant : Ant) : Instruction → Bool
  | .move _ _ => b.isFree (b.layout.neighbor ant.slot ant.facing)
  | _ => false

/-- The slot of the cell to which ant `id` steps if it is its turn; none if its turn is no step. -/
def stride? (b : Battle) (id : Nat) : Option Nat := do
  let ant ← b.ant? id
  let i ← (b.brains.get ant.colony).get? ant.state
  if ant.alive && ant.resting == 0 && b.strides ant i then
    some (b.layout.neighbor ant.slot ant.facing)
  else none

/-- An ant steps if it is told to and the cell ahead is free. -/
theorem stride?_eq_some_iff {b : Battle} {id target : Nat} :
    b.stride? id = some target ↔
      ∃ ant ifMoved ifBlocked, b.ant? id = some ant ∧ ant.alive ∧ ant.resting = 0 ∧
        (b.brains.get ant.colony).get? ant.state = some (.move ifMoved ifBlocked) ∧
        b.layout.neighbor ant.slot ant.facing = target ∧ b.isFree target := by
  simp only [stride?, Option.bind_eq_bind, Option.bind_eq_some_iff, Option.ite_none_right_eq_some,
    Bool.and_eq_true, beq_iff_eq, Option.some.injEq]
  constructor
  · rintro ⟨ant, present, i, told, ⟨⟨alive, rested⟩, strides⟩, rfl⟩
    cases i with
    | move ifMoved ifBlocked =>
      exact ⟨ant, ifMoved, ifBlocked, present, alive, rested, told, rfl, strides⟩
    | _ => cases strides
  · rintro ⟨ant, ifMoved, ifBlocked, present, alive, rested, told, rfl, free⟩
    exact ⟨ant, present, _, told, ⟨⟨alive, rested⟩, free⟩, rfl⟩

theorem isFree_of_strides {b : Battle} {ant : Ant} {i : Instruction} (strides : b.strides ant i) :
    b.isFree (b.layout.neighbor ant.slot ant.facing) := by
  cases i with
  | move ifMoved ifBlocked => exact strides
  | _ => cases strides

/-- An instruction leads to one of the states that it names. -/
theorem act_mem_successors (b : Battle) (id : Nat) (ant : Ant) (i : Instruction) :
    (b.act id ant i).2 ∈ i.successors := by
  cases i with
  | sense gaze ifTrue ifFalse condition => simp only [act]; split <;> simp [Instruction.successors]
  | mark marker next => simp [act, Instruction.successors]
  | unmark marker next => simp [act, Instruction.successors]
  | pickUp ifTaken ifNot => simp only [act]; split <;> simp [Instruction.successors]
  | drop next => simp [act, Instruction.successors]
  | turn rotation next => simp [act, Instruction.successors]
  | move ifMoved ifBlocked => simp only [act]; split <;> simp [Instruction.successors]
  | flip odds ifZero ifOther => simp only [act]; split <;> simp [Instruction.successors]

/-- The state after an instruction of a brain belongs to the brain. -/
theorem act_lt_size {b : Battle} {id : Nat} {ant : Ant} {i : Instruction} {brain : Brain}
    (told : brain.get? ant.state = some i) : (b.act id ant i).2 < brain.size :=
  brain.successors_lt i (Array.mem_of_getElem? told) _ (act_mem_successors b id ant i)

/-- An instruction that is no step changes nothing or makes one quiet change. -/
theorem quiet_act {b : Battle} {id : Nat} {ant : Ant} (present : b.ant? id = some ant)
    (alive : ant.alive) (i : Instruction) (still : b.strides ant i = false) :
    ReflTransGen Quiet b (b.act id ant i).1 := by
  cases i with
  | sense gaze ifTrue ifFalse condition => simp only [act]; split <;> exact .refl
  | mark marker next => exact .single (.mark present alive _)
  | unmark marker next => exact .single (.mark present alive _)
  | pickUp ifTaken ifNot =>
    simp only [act]
    split
    · exact .refl
    · rename_i able
      simp only [Bool.or_eq_true, beq_iff_eq, not_or, Bool.not_eq_true] at able
      exact .single (.take present alive able.1 (Nat.pos_of_ne_zero able.2))
  | drop next =>
    simp only [act]
    split
    · rename_i laden
      exact .single (.put present alive laden)
    · exact .refl
  | turn rotation next => exact .single (.turn _)
  | move ifMoved ifBlocked =>
    have blocked : ¬ b.isFree (b.layout.neighbor ant.slot ant.facing) := by
      simpa [strides] using still
    simp only [act, if_neg blocked]
    exact .refl
  | flip odds ifZero ifOther => exact .single (.roll _)

/-- An instruction that is a step moves the ant and then lets the surrounded die. -/
theorem act_of_strides {b : Battle} {id : Nat} {ant : Ant} {i : Instruction}
    (strides : b.strides ant i) :
    (b.act id ant i).1 =
      (b.relocate id ant (b.layout.neighbor ant.slot ant.facing)).judgeAround
        (b.layout.neighbor ant.slot ant.facing) := by
  cases i with
  | move ifMoved ifBlocked => simp only [act, if_pos (isFree_of_strides strides)]
  | _ => cases strides

/-! ### The surround rule as a chain of deaths -/

theorem deeds_judge (b : Battle) (slot : Nat) : ReflTransGen Deed b (b.judge slot) := by
  unfold judge
  split
  · exact .refl
  · rename_i id named
    split
    · rename_i surrounded
      exact .single (.die named surrounded)
    · exact .refl

@[simp] theorem layout_judge (b : Battle) (slot : Nat) : (b.judge slot).layout = b.layout :=
  (lasting_of_deeds (deeds_judge b slot)).layout

theorem foldl_judge_map {b b' : Battle} (same : b'.layout = b.layout) (slot : Nat)
    (ds : List Direction) :
    ds.foldl (fun b d => b.judge (b.layout.neighbor slot d)) b' =
      (ds.map (b.layout.neighbor slot)).foldl judge b' := by
  induction ds generalizing b' with
  | nil => rfl
  | cons d ds ih =>
    rw [List.map_cons, List.foldl_cons, List.foldl_cons, ih (by rw [layout_judge, same]), same]

/-- The cells that the surround rule looks at after a step, in its order. -/
def judged (l : Layout) (slot : Nat) : List Nat := slot :: Direction.all.map (l.neighbor slot)

theorem judgeAround_eq_foldl (b : Battle) (slot : Nat) :
    b.judgeAround slot = (judged b.layout slot).foldl judge b := by
  rw [judgeAround, judged, List.foldl_cons]
  exact foldl_judge_map (layout_judge b slot) slot Direction.all

theorem deeds_foldl_judge (slots : List Nat) (b : Battle) :
    ReflTransGen Deed b (slots.foldl judge b) := by
  induction slots generalizing b with
  | nil => exact .refl
  | cons slot slots ih => exact (deeds_judge b slot).trans (ih (b.judge slot))

theorem deeds_judgeAround (b : Battle) (slot : Nat) : ReflTransGen Deed b (b.judgeAround slot) := by
  rw [judgeAround_eq_foldl]
  exact deeds_foldl_judge _ b

/-! ### Turns as chains -/

theorem deeds_of_quiet {b b' : Battle} (changes : ReflTransGen Quiet b b') :
    ReflTransGen Deed b b' :=
  ReflTransGen.mono (fun _ _ change => .quiet change) _ _ changes

theorem deeds_act {b : Battle} {id : Nat} {ant : Ant} (present : b.ant? id = some ant)
    (alive : ant.alive) (i : Instruction) : ReflTransGen Deed b (b.act id ant i).1 := by
  cases step : b.strides ant i with
  | false => exact deeds_of_quiet (quiet_act present alive i step)
  | true =>
    rw [act_of_strides step]
    exact .head (.move present alive (isFree_of_strides step)) (deeds_judgeAround _ _)

/-- After an instruction the ant may enter the state that the instruction names. -/
theorem quiet_obey {b : Battle} {id : Nat} {ant : Ant} {i : Instruction}
    (present : b.ant? id = some ant) (alive : ant.alive)
    (told : (b.brains.get ant.colony).get? ant.state = some i) :
    Quiet (b.act id ant i).1
      ((b.act id ant i).1.changeAnt id fun a => { a with state := (b.act id ant i).2 }) := by
  refine .think fun ant' present' => ?_
  have lasting := lasting_of_deeds (deeds_act present alive i)
  have colony : ant'.colony = ant.colony := by
    simpa [present, present'] using lasting.colony id
  rw [colony, lasting.brains]
  exact act_lt_size told

theorem deeds_takeTurn (b : Battle) (id : Nat) : ReflTransGen Deed b (b.takeTurn id) := by
  have turn := turn_takeTurn b id
  generalize b.takeTurn id = b' at turn ⊢
  cases turn with
  | idle => exact .refl
  | rest present alive tired => exact .single (.quiet (.rest present alive tired))
  | obey present alive rested told =>
    exact (deeds_act present alive _).tail (.quiet (quiet_obey present alive told))

end Battle

end Formicary
