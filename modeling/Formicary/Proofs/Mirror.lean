/-
Module: Formicary.Proofs.Mirror
Purpose: The rules favour neither colony: with the two colonies exchanged a battle takes the mirror
  image of its course.
Main exports: Cell.swap, Ant.swap, Ledger.swap, Battle.swap, Battle.takeTurn_swap,
  Battle.start_swap, Battle.no_colony_favoured
-/
import Formicary.Battle.Tally
import Formicary.Proofs.Occupancy

namespace Formicary

/-! ### Mirror images -/

/-- A cell with the two colonies exchanged. -/
def Cell.swap (c : Cell) : Cell :=
  { c with owner := c.owner.map Colony.foe, markers := c.markers.swap }

/-- An ant of the other colony in the same plight. -/
def Ant.swap (a : Ant) : Ant := { a with colony := a.colony.foe }

/-- The account with the two colonies exchanged. -/
def Ledger.swap (l : Ledger) : Ledger :=
  { l with hill := l.hill.swap, carried := l.carried.swap }

/-- The mirror image of a battle: each colony has the brain, the ants, the anthill, the markers and
the food of the other, and all else is the same. -/
def Battle.swap (b : Battle) : Battle :=
  { b with
    brains := b.brains.swap
    cells := b.cells.map Cell.swap
    ants := b.ants.map Ant.swap
    ledger := b.ledger.swap
    mustered := b.mustered.swap }

namespace Colony

theorem foe_beq (c d : Colony) : (c.foe == d.foe) = (c == d) := by
  cases c <;> cases d <;> rfl

theorem foe_bne (c d : Colony) : (c.foe != d.foe) = (c != d) := by
  cases c <;> cases d <;> rfl

end Colony

namespace PerColony

variable {α : Type}

theorem swap_modify (p : PerColony α) (c : Colony) (f : α → α) :
    (p.modify c f).swap = p.swap.modify c.foe f := by
  cases c <;> rfl

theorem swap_ofFn (f : Colony → α) : (ofFn f).swap = ofFn fun c => f c.foe := rfl

end PerColony

namespace Ledger

theorem swap_put (l : Ledger) (owner : Option Colony) (amount : Nat) :
    (l.put owner amount).swap = l.swap.put (owner.map Colony.foe) amount := by
  rcases owner with _ | _ | _ <;> rfl

theorem swap_take (l : Ledger) (owner : Option Colony) (amount : Nat) :
    (l.take owner amount).swap = l.swap.take (owner.map Colony.foe) amount := by
  rcases owner with _ | _ | _ <;> rfl

theorem swap_load (l : Ledger) (c : Colony) : (l.load c).swap = l.swap.load c.foe := by
  cases c <;> rfl

theorem swap_unload (l : Ledger) (c : Colony) : (l.unload c).swap = l.swap.unload c.foe := by
  cases c <;> rfl

end Ledger

namespace Battle

/-! ### Views of the mirror image -/

@[simp] theorem layout_swap (b : Battle) : b.swap.layout = b.layout := rfl

@[simp] theorem cellAt_swap (b : Battle) (slot : Nat) :
    b.swap.cellAt slot = (b.cellAt slot).swap := by
  simp only [cellAt, swap, Array.getElem?_map]
  cases b.cells[slot]? with
  | none => rfl
  | some c => rfl

@[simp] theorem ant?_swap (b : Battle) (id : Nat) : b.swap.ant? id = (b.ant? id).map Ant.swap := by
  simp only [ant?, swap, Array.getElem?_map]

@[simp] theorem occupant?_swap (b : Battle) (slot : Nat) :
    b.swap.occupant? slot = (b.occupant? slot).map Ant.swap := by
  simp only [occupant?, cellAt_swap, Cell.swap]
  cases (b.cellAt slot).occupant with
  | none => rfl
  | some id => exact ant?_swap b id

/-! ### Changes of the mirror image -/

section Changes

variable (b : Battle) (slot id : Nat)

theorem swap_changeCell {f f' : Cell → Cell} (mirrored : ∀ c, (f c).swap = f' c.swap) :
    (b.changeCell slot f).swap = b.swap.changeCell slot f' := by
  simp only [changeCell, swap, map_modify_of_comm mirrored]

theorem swap_changeAnt {f f' : Ant → Ant} (mirrored : ∀ a, (f a).swap = f' a.swap) :
    (b.changeAnt id f).swap = b.swap.changeAnt id f' := by
  simp only [changeAnt, swap, map_modify_of_comm mirrored]

theorem swap_changeLedger {f f' : Ledger → Ledger} (mirrored : ∀ l, (f l).swap = f' l.swap) :
    (b.changeLedger f).swap = b.swap.changeLedger f' := by
  simp only [changeLedger, swap, mirrored]

end Changes

/-! ### The surround rule -/

theorem hasFoeOf_swap (b : Battle) (c : Colony) (slot : Nat) :
    b.swap.hasFoeOf c.foe slot = b.hasFoeOf c slot := by
  rw [hasFoeOf, occupant?_swap, Option.any_map]
  simp only [Ant.swap, Colony.foe_bne, hasFoeOf]

theorem adjacentFoes_swap (b : Battle) (slot id : Nat) :
    b.swap.adjacentFoes slot id = b.adjacentFoes slot id := by
  rw [adjacentFoes, ant?_swap, adjacentFoes]
  cases b.ant? id with
  | none => rfl
  | some ant =>
    simp only [Option.map_some, Ant.swap, layout_swap, hasFoeOf_swap]

theorem kill_swap (b : Battle) (id : Nat) : b.swap.kill id = (b.kill id).swap := by
  cases present : b.ant? id with
  | none =>
    have absent : b.swap.ant? id = none := by rw [ant?_swap, present]; rfl
    rw [kill_of_absent present, kill_of_absent absent]
  | some ant =>
    have present' : b.swap.ant? id = some ant.swap := by rw [ant?_swap, present]; rfl
    rw [kill_eq present, kill_eq present']
    symm
    rw [swap_changeLedger, swap_changeCell, swap_changeAnt]
    · rfl
    · intro a
      rfl
    · intro c
      rfl
    · intro l
      have load : ant.swap.laden = ant.laden := rfl
      have owner : (b.swap.cellAt ant.swap.slot).owner =
          (b.cellAt ant.slot).owner.map Colony.foe := by rw [cellAt_swap]; rfl
      rw [load, owner]
      by_cases laden : ant.laden
      · rw [if_pos laden, if_pos laden, Ledger.swap_unload, Ledger.swap_put]
        rfl
      · rw [if_neg laden, if_neg laden, Ledger.swap_put]

theorem judge_swap (b : Battle) (slot : Nat) : b.swap.judge slot = (b.judge slot).swap := by
  simp only [judge, cellAt_swap, Cell.swap, adjacentFoes_swap]
  cases (b.cellAt slot).occupant with
  | none => rfl
  | some id =>
    dsimp only
    split
    · exact kill_swap b id
    · rfl

theorem foldl_judge_swap (slots : List Nat) (b : Battle) :
    slots.foldl judge b.swap = (slots.foldl judge b).swap := by
  induction slots generalizing b with
  | nil => rfl
  | cons slot slots ih => rw [List.foldl_cons, List.foldl_cons, judge_swap, ih]

theorem judgeAround_swap (b : Battle) (slot : Nat) :
    b.swap.judgeAround slot = (b.judgeAround slot).swap := by
  rw [judgeAround_eq_foldl, judgeAround_eq_foldl, layout_swap, foldl_judge_swap]

/-! ### Turns -/

theorem sensedSlot_swap (l : Layout) (ant : Ant) (gaze : Gaze) :
    sensedSlot l ant.swap gaze = sensedSlot l ant gaze := by
  cases gaze <;> rfl

/-- What an ant senses, an ant of the other colony senses in the mirror image. -/
theorem holds_swap (b : Battle) (c : Colony) (slot : Nat) (condition : Condition) :
    b.swap.holds c.foe slot condition = b.holds c slot condition := by
  cases condition with
  | friend =>
    simp only [holds, occupant?_swap, Option.any_map, Ant.swap, Colony.foe_beq]
  | foe =>
    simp only [holds, occupant?_swap, Option.any_map, Ant.swap, Colony.foe_bne]
  | friendWithFood =>
    simp only [holds, occupant?_swap, Option.any_map, Ant.swap, Colony.foe_beq]
  | foeWithFood =>
    simp only [holds, occupant?_swap, Option.any_map, Ant.swap, Colony.foe_bne]
  | food => simp only [holds, cellAt_swap, Cell.swap]
  | rock => simp only [holds, cellAt_swap, Cell.swap]
  | marker m => simp only [holds, cellAt_swap, Cell.swap, PerColony.get_swap, Colony.foe_foe]
  | foeMarker => simp only [holds, cellAt_swap, Cell.swap, PerColony.get_swap, Colony.foe_foe]
  | home =>
    simp only [holds, cellAt_swap, Cell.swap]
    rcases (b.cellAt slot).owner with _ | owner
    · rfl
    · exact Colony.foe_beq owner c
  | foeHome =>
    simp only [holds, cellAt_swap, Cell.swap, Option.any_map, Colony.foe_bne]

theorem changeMarkers_swap (b : Battle) (ant : Ant) (f : MarkerSet → MarkerSet) :
    b.swap.changeMarkers ant.swap f = (b.changeMarkers ant f).swap := by
  symm
  apply swap_changeCell
  intro c
  simp only [Cell.swap, Ant.swap, PerColony.swap_modify]

theorem take_swap (b : Battle) (id : Nat) (ant : Ant) :
    b.swap.take id ant.swap = (b.take id ant).swap := by
  symm
  rw [take, swap_changeAnt, swap_changeLedger, swap_changeCell]
  · rfl
  · intro c
    rfl
  · intro l
    rw [Ledger.swap_load, Ledger.swap_take, cellAt_swap]
    rfl
  · intro a
    rfl

theorem put_swap (b : Battle) (id : Nat) (ant : Ant) :
    b.swap.put id ant.swap = (b.put id ant).swap := by
  symm
  rw [put, swap_changeAnt, swap_changeLedger, swap_changeCell]
  · rfl
  · intro c
    rfl
  · intro l
    rw [Ledger.swap_put, Ledger.swap_unload, cellAt_swap]
    rfl
  · intro a
    rfl

theorem relocate_swap (b : Battle) (id : Nat) (ant : Ant) (target : Nat) :
    b.swap.relocate id ant.swap target = (b.relocate id ant target).swap := by
  symm
  rw [relocate, swap_changeAnt, swap_changeCell, swap_changeCell]
  · rfl
  · intro c
    rfl
  · intro c
    rfl
  · intro a
    rfl

/-- An instruction has the mirror image of its effect and leads to the same state. -/
theorem act_swap (b : Battle) (id : Nat) (ant : Ant) (i : Instruction) :
    b.swap.act id ant.swap i = ((b.act id ant i).1.swap, (b.act id ant i).2) := by
  cases i with
  | sense gaze ifTrue ifFalse condition =>
    have same : b.swap.holds ant.swap.colony (sensedSlot b.swap.layout ant.swap gaze) condition =
        b.holds ant.colony (sensedSlot b.layout ant gaze) condition := by
      rw [layout_swap, sensedSlot_swap]
      exact holds_swap b ant.colony _ condition
    simp only [act, same]
    split <;> rfl
  | mark marker next => simp only [act, changeMarkers_swap]
  | unmark marker next => simp only [act, changeMarkers_swap]
  | pickUp ifTaken ifNot =>
    have slot : ant.swap.slot = ant.slot := rfl
    have laden : ant.swap.laden = ant.laden := rfl
    have food : (b.cellAt ant.slot).swap.food = (b.cellAt ant.slot).food := rfl
    simp only [act, slot, laden, cellAt_swap, food]
    split
    · rfl
    · rw [take_swap]
  | drop next =>
    have laden : ant.swap.laden = ant.laden := rfl
    simp only [act, laden]
    split
    · rw [put_swap]
    · rfl
  | turn rotation next =>
    simp only [act, Prod.mk.injEq, and_true]
    symm
    apply swap_changeAnt
    intro a
    rfl
  | move ifMoved ifBlocked =>
    have target : b.swap.layout.neighbor ant.swap.slot ant.swap.facing =
        b.layout.neighbor ant.slot ant.facing := rfl
    have same (s : Nat) : b.swap.isFree s = b.isFree s := by
      simp only [isFree, cellAt_swap, Cell.swap]
    simp only [act, target, same, relocate_swap, judgeAround_swap]
    by_cases free : b.isFree (b.layout.neighbor ant.slot ant.facing)
    · simp only [if_pos free]
    · simp only [if_neg free]
  | flip odds ifZero ifOther =>
    have dice : b.swap.dice = b.dice := rfl
    simp only [act, dice]
    generalize b.dice.roll odds = roll
    rfl

theorem takeTurn_swap (b : Battle) (id : Nat) : b.swap.takeTurn id = (b.takeTurn id).swap := by
  simp only [takeTurn, ant?_swap]
  cases b.ant? id with
  | none => rfl
  | some ant =>
    have brain : b.swap.brains.get ant.swap.colony = b.brains.get ant.colony := by
      simp only [swap, Ant.swap, PerColony.get_swap, Colony.foe_foe]
    have alive : ant.swap.alive = ant.alive := rfl
    have resting : ant.swap.resting = ant.resting := rfl
    have state : ant.swap.state = ant.state := rfl
    simp only [Option.map_some, brain, alive, resting, state]
    split
    · rfl
    · split
      · symm
        apply swap_changeAnt
        intro a
        rfl
      · split
        · rfl
        · rw [act_swap]
          symm
          apply swap_changeAnt
          intro a
          rfl

/-! ### Rounds -/

theorem playRounds_swap (n : Nat) (b : Battle) :
    playRounds n b.swap = (playRounds n b).swap :=
  playRounds_comm takeTurn_swap (fun _ => Array.size_map) (fun _ => rfl) n b

/-! ### The start -/

theorem foodAmount_swap (t : Terrain) : t.swap.foodAmount = t.foodAmount := by
  cases t <;> rfl

theorem settle_swap (cells : Array Cell) (ants : Array Ant) (t : Terrain) (slot : Nat) :
    settle (cells.map Cell.swap, ants.map Ant.swap) (t.swap, slot) =
      ((settle (cells, ants) (t, slot)).1.map Cell.swap,
        (settle (cells, ants) (t, slot)).2.map Ant.swap) := by
  have settled_swap (n : Nat) : settled t.swap n = (settled t n).swap := by
    cases t <;> rfl
  have hatched_swap : hatched [(t.swap, slot)] = (hatched [(t, slot)]).map Ant.swap := by
    cases t <;> rfl
  have mapped : (cells.map Cell.swap).setIfInBounds slot (settled t ants.size).swap =
      (cells.setIfInBounds slot (settled t ants.size)).map Cell.swap := by
    apply Array.ext_getElem?
    intro i
    simp only [Array.getElem?_map, Array.getElem?_setIfInBounds, Array.size_map]
    split
    · split <;> rfl
    · rfl
  rw [settle_eq, settle_eq, settled_swap, hatched_swap, Array.size_map, mapped, Array.map_append,
    ← List.map_toArray]

theorem foldl_settle_swap (sites : List (Terrain × Nat)) (cells : Array Cell) (ants : Array Ant) :
    (sites.map (Prod.map Terrain.swap id)).foldl settle (cells.map Cell.swap, ants.map Ant.swap) =
      ((sites.foldl settle (cells, ants)).1.map Cell.swap,
        (sites.foldl settle (cells, ants)).2.map Ant.swap) := by
  induction sites generalizing cells ants with
  | nil => rfl
  | cons site sites ih =>
    obtain ⟨t, slot⟩ := site
    rw [List.map_cons, List.foldl_cons, List.foldl_cons, Prod.map_apply, id_eq, settle_swap, ih]

theorem board_swap (w : World) (l : Layout) :
    board w.swap l = ((board w l).1.map Cell.swap, (board w l).2.map Ant.swap) := by
  have sites : (w.swap.sites.map Site.terrain).zip (l.slots.map Prod.snd) =
      ((w.sites.map Site.terrain).zip (l.slots.map Prod.snd)).map (Prod.map Terrain.swap id) := by
    rw [World.swap, List.map_map, ← List.zip_map, List.map_map, List.map_id]
    rfl
  have bare : Array.replicate l.size Cell.rock = (Array.replicate l.size Cell.rock).map Cell.swap := by
    rw [Array.map_replicate]
    rfl
  have image := foldl_settle_swap ((w.sites.map Site.terrain).zip (l.slots.map Prod.snd))
    (Array.replicate l.size .rock) #[]
  rw [← bare, ← sites, Array.map_empty] at image
  exact image

theorem totalFood_swap (w : World) : w.swap.totalFood = w.totalFood := by
  simp only [World.totalFood, World.swap, List.foldr_map, foodAmount_swap]

theorem hillCount_swap (w : World) (c : Colony) : w.swap.hillCount c = w.hillCount c.foe := by
  simp only [World.hillCount, World.swap, List.countP_map]
  congr 1
  funext s
  rcases s with ⟨place, _ | _ | owner | _⟩
  · rfl
  · rfl
  · cases owner <;> cases c <;> rfl
  · rfl

/-- On the map with the colonies exchanged, and with the brains exchanged, the battle begins as the
mirror image, or fails to begin for the same reason. -/
theorem start_swap (w : World) (brains : PerColony Brain) (seed : Nat) :
    start w.swap brains.swap seed = (start w brains seed).map swap := by
  have places : w.swap.places = w.places := by
    simp only [World.places, World.swap, List.map_map]
    rfl
  have mustered : PerColony.ofFn w.swap.hillCount = (PerColony.ofFn w.hillCount).swap := by
    rw [PerColony.swap_ofFn]
    exact congrArg PerColony.ofFn (funext (hillCount_swap w))
  rw [start, start, places]
  cases Layout.build w.places with
  | error fault => rfl
  | ok l =>
    simp only [bind, Except.bind, board_swap, account_eq, totalFood_swap, muster_eq, mustered, pure,
      Except.pure]
    rfl

/-! ### All rounds -/

theorem outcome_swap (b : Battle) : b.swap.outcome = b.outcome.swap := by
  have exchanged : b.swap.tally.hill = b.tally.hill.swap := rfl
  rw [outcome, outcome, Tally.outcome, Tally.outcome, exchanged]
  obtain ⟨red, black⟩ := b.tally.hill
  rcases Nat.lt_trichotomy red black with behind | level | ahead
  · simp [PerColony.swap, behind, Nat.lt_asymm behind, Outcome.swap, Colony.foe]
  · simp [PerColony.swap, level, Outcome.swap]
  · simp [PerColony.swap, ahead, Nat.lt_asymm ahead, Outcome.swap, Colony.foe]

/-- Let the anthills and the brains of the two colonies be exchanged. The battle begins as the mirror
image and remains it after every round: the same round and dice, the same rock, food and ants on each
cell, the same ants by number but of the other colony, and the owners, the markers and the account
exchanged. One colony is ahead in one battle exactly when the other is in the other. -/
theorem no_colony_favoured {w : World} {red black : Brain} {seed : Nat} {b : Battle}
    (started : start w ⟨red, black⟩ seed = .ok b) (n : Nat) :
    ∃ b', start w.swap ⟨black, red⟩ seed = .ok b' ∧
      playRounds n b' = (playRounds n b).swap ∧
      ((playRounds n b').outcome = .winner .red ↔ (playRounds n b).outcome = .winner .black) ∧
      ((playRounds n b').outcome = .winner .black ↔ (playRounds n b).outcome = .winner .red) ∧
      ((playRounds n b').outcome = .draw ↔ (playRounds n b).outcome = .draw) := by
  have mirrored : start w.swap ⟨black, red⟩ seed = .ok b.swap := by
    have image := start_swap w ⟨red, black⟩ seed
    rw [started] at image
    exact image
  refine ⟨b.swap, mirrored, playRounds_swap n b, ?_⟩
  rw [playRounds_swap, outcome_swap]
  rcases (playRounds n b).outcome with (_ | _) | _ <;> simp [Outcome.swap, Colony.foe]

/-- Of the siege with the colonies exchanged red has the better end, for the remains of the besieged
ant lie on its own anthill. -/
theorem mirrored_siege : ∃ b b', start siege ⟨marcher, idler⟩ 1 = .ok b ∧
    start siege.swap ⟨idler, marcher⟩ 1 = .ok b' ∧
    (playRounds 1 b).outcome = .winner .black ∧ (playRounds 1 b').outcome = .winner .red := by
  obtain ⟨b, started, ahead⟩ : ∃ b, start siege ⟨marcher, idler⟩ 1 = .ok b ∧
      (playRounds 1 b).outcome = .winner .black := by
    refine ⟨_, rfl, ?_⟩
    decide +kernel
  obtain ⟨b', started', -, outcome, -⟩ := no_colony_favoured started 1
  exact ⟨b, b', started, started', ahead, outcome.2 ahead⟩

end Battle

end Formicary
