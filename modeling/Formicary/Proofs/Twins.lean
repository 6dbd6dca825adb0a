/-
Module: Formicary.Proofs.Twins
Purpose: What a dump leaves out has no effect: two battles on a map that have the same dump and the
  same dice go on alike, whatever became of their dead.
Main exports: Battle.livingAnts, Battle.Twins, Battle.Twins.act, Battle.Twins.takeTurn,
  Battle.twins_of_dumpLines, Battle.dump_decides_future
-/
import Formicary.Battle.Tally
import Formicary.Proofs.Dumps
import Formicary.Proofs.Rescan
import Formicary.Proofs.Safety
import Formicary.Proofs.Seeds

namespace Formicary

namespace Battle

open Relation (ReflTransGen)

/-! ### The living -/

/-- The ants by number. Of the dead nothing is left but the number. -/
def livingAnts (b : Battle) : Array (Option Ant) := b.ants.map (Option.guard Ant.alive)

section Living

variable {b b' : Battle}

theorem getElem?_livingAnts {id : Nat} {ant : Ant} :
    b.livingAnts[id]? = some (some ant) ↔ b.ant? id = some ant ∧ ant.alive := by
  rw [livingAnts, Array.getElem?_map, Option.map_eq_some_iff]
  constructor
  · rintro ⟨former, present, lives⟩
    obtain ⟨rfl, alive⟩ := Option.guard_eq_some_iff.1 lives
    exact ⟨present, alive⟩
  · rintro ⟨present, alive⟩
    exact ⟨ant, present, Option.guard_eq_some_iff.2 ⟨rfl, alive⟩⟩

theorem livingAnts_ext (size : b'.ants.size = b.ants.size)
    (same : ∀ id ant, (b'.ant? id = some ant ∧ ant.alive) ↔ b.ant? id = some ant ∧ ant.alive) :
    b'.livingAnts = b.livingAnts := by
  apply Array.ext
  · rw [livingAnts, livingAnts, Array.size_map, Array.size_map, size]
  · intro id lt' lt
    apply Option.ext
    intro ant
    have found := same id ant
    rw [← getElem?_livingAnts, ← getElem?_livingAnts, Array.getElem?_eq_getElem lt,
      Array.getElem?_eq_getElem lt', Option.some.injEq, Option.some.injEq] at found
    exact found

/-- A count of living ants takes no notice of the dead. -/
theorem countP_livingAnts (p : Ant → Bool) :
    b.ants.countP (fun a => a.alive && p a) = b.livingAnts.countP (Option.any p) := by
  rw [livingAnts, Array.countP_map]
  congr 1
  funext a
  rw [Function.comp_apply, Option.any_guard]

theorem takeTurn_of_not_living {id : Nat} (gone : ¬∃ ant, b.ant? id = some ant ∧ ant.alive) :
    b.takeTurn id = b := by
  rw [takeTurn]
  cases present : b.ant? id with
  | none => rfl
  | some ant =>
    have dead : (!ant.alive) = true := by
      rw [Bool.not_eq_true']
      exact Bool.eq_false_iff.2 fun alive => gone ⟨ant, present, alive⟩
    exact if_pos dead

end Living

/-! ### Twins -/

/-- Two battles that differ at most in their seed, their account of the food and the data of their
dead ants. -/
structure Twins (b b' : Battle) : Prop where
  layout : b'.layout = b.layout
  brains : b'.brains = b.brains
  cells : b'.cells = b.cells
  ants : b'.livingAnts = b.livingAnts
  dice : b'.dice = b.dice
  round : b'.round = b.round

namespace Twins

variable {b b' : Battle}

/-! ### Views -/

theorem size (twins : b.Twins b') : b'.ants.size = b.ants.size := by
  have same := congrArg Array.size twins.ants
  rwa [livingAnts, livingAnts, Array.size_map, Array.size_map] at same

theorem present_iff (twins : b.Twins b') {id : Nat} {ant : Ant} :
    (b'.ant? id = some ant ∧ ant.alive) ↔ b.ant? id = some ant ∧ ant.alive := by
  rw [← getElem?_livingAnts, ← getElem?_livingAnts, twins.ants]

theorem cellAt (twins : b.Twins b') (slot : Nat) : b'.cellAt slot = b.cellAt slot := by
  rw [Battle.cellAt, twins.cells, ← Battle.cellAt]

/-- Whoever stands on a cell lives, so that both battles show the same ant there. -/
theorem occupant? (twins : b.Twins b') (sound : b.Sound) (slot : Nat) :
    b'.occupant? slot = b.occupant? slot := by
  rw [Battle.occupant?, Battle.occupant?, twins.cellAt]
  cases named : (b.cellAt slot).occupant with
  | none => rfl
  | some id =>
    obtain ⟨ant, present, alive, -⟩ := sound.named slot id named
    rw [Option.bind_some, Option.bind_some, present, (twins.present_iff.2 ⟨present, alive⟩).1]

theorem hasFoeOf (twins : b.Twins b') (sound : b.Sound) (c : Colony) (slot : Nat) :
    b'.hasFoeOf c slot = b.hasFoeOf c slot := by
  rw [Battle.hasFoeOf, twins.occupant? sound, ← Battle.hasFoeOf]

theorem isFree (twins : b.Twins b') (slot : Nat) : b'.isFree slot = b.isFree slot := by
  rw [Battle.isFree, twins.cellAt, ← Battle.isFree]

theorem holds (twins : b.Twins b') (sound : b.Sound) (c : Colony) (slot : Nat)
    (condition : Condition) : b'.holds c slot condition = b.holds c slot condition := by
  have occupant := twins.occupant? sound slot
  have cell := twins.cellAt slot
  cases condition with
  | friend => rw [Battle.holds, occupant]; rfl
  | foe => rw [Battle.holds, occupant]; rfl
  | friendWithFood => rw [Battle.holds, occupant]; rfl
  | foeWithFood => rw [Battle.holds, occupant]; rfl
  | food => rw [Battle.holds, cell]; rfl
  | rock => rw [Battle.holds, cell]; rfl
  | marker m => rw [Battle.holds, cell]; rfl
  | foeMarker => rw [Battle.holds, cell]; rfl
  | home => rw [Battle.holds, cell]; rfl
  | foeHome => rw [Battle.holds, cell]; rfl

/-! ### Changes -/

/-- A change of an ant keeps two battles twins if what becomes of a living ant does not depend on
any dead one. -/
theorem changeAnt_of_comm (twins : b.Twins b') (id : Nat) {f : Ant → Ant}
    {g : Option Ant → Option Ant}
    (comm : ∀ a, Option.guard Ant.alive (f a) = g (Option.guard Ant.alive a)) :
    (b.changeAnt id f).Twins (b'.changeAnt id f) := by
  have changed (b : Battle) : (b.changeAnt id f).livingAnts = b.livingAnts.modify id g :=
    map_modify_of_comm comm b.ants id
  refine { twins with ants := ?_ }
  rw [changed, changed, twins.ants]

theorem changeAnt (twins : b.Twins b') (id : Nat) {f : Ant → Ant}
    (same : ∀ a, (f a).alive = a.alive) : (b.changeAnt id f).Twins (b'.changeAnt id f) := by
  refine twins.changeAnt_of_comm id (g := Option.map f) fun a => ?_
  rw [Option.guard_apply, Option.guard_apply, same]
  split <;> rfl

theorem changeCell (twins : b.Twins b') (slot : Nat) (f : Cell → Cell) :
    (b.changeCell slot f).Twins (b'.changeCell slot f) :=
  { twins with cells := congrArg (·.modify slot f) twins.cells }

/-- It does not matter what is entered in the accounts. -/
theorem changeLedger (twins : b.Twins b') (f g : Ledger → Ledger) :
    (b.changeLedger f).Twins (b'.changeLedger g) :=
  { twins with }

/-! ### The surround rule -/

theorem kill (twins : b.Twins b') {id : Nat} {ant : Ant} (present : b.ant? id = some ant)
    (alive : ant.alive) : (b.kill id).Twins (b'.kill id) := by
  obtain ⟨present', -⟩ := twins.present_iff.2 ⟨present, alive⟩
  have dead := twins.changeAnt_of_comm id (f := fun a => { a with alive := false, laden := false })
    (g := fun _ => none) fun _ => rfl
  rw [kill_eq present, kill_eq present']
  exact (dead.changeCell _ _).changeLedger _ _

theorem adjacentFoes (twins : b.Twins b') (sound : b.Sound) {id : Nat} {ant : Ant}
    (present : b.ant? id = some ant) (alive : ant.alive) (slot : Nat) :
    b'.adjacentFoes slot id = b.adjacentFoes slot id := by
  obtain ⟨present', -⟩ := twins.present_iff.2 ⟨present, alive⟩
  simp only [Battle.adjacentFoes, present, present', twins.layout, twins.hasFoeOf sound]

theorem judge (twins : b.Twins b') (sound : b.Sound) (slot : Nat) :
    (b.judge slot).Twins (b'.judge slot) := by
  rw [Battle.judge, Battle.judge, twins.cellAt]
  cases named : (b.cellAt slot).occupant with
  | none => exact twins
  | some id =>
    obtain ⟨ant, present, alive, -⟩ := sound.named slot id named
    dsimp only
    rw [twins.adjacentFoes sound present alive]
    split
    · exact twins.kill present alive
    · exact twins

theorem foldl_judge (twins : b.Twins b') (sound : b.Sound) (slots : List Nat) :
    (slots.foldl Battle.judge b).Twins (slots.foldl Battle.judge b') := by
  induction slots generalizing b b' with
  | nil => exact twins
  | cons slot slots ih => exact ih (twins.judge sound slot) (sound.deeds (deeds_judge b slot))

theorem judgeAround (twins : b.Twins b') (sound : b.Sound) (slot : Nat) :
    (b.judgeAround slot).Twins (b'.judgeAround slot) := by
  rw [judgeAround_eq_foldl, judgeAround_eq_foldl, twins.layout]
  exact twins.foldl_judge sound _

/-! ### Deeds -/

theorem changeMarkers (twins : b.Twins b') (ant : Ant) (f : MarkerSet → MarkerSet) :
    (b.changeMarkers ant f).Twins (b'.changeMarkers ant f) :=
  twins.changeCell _ _

theorem take (twins : b.Twins b') (id : Nat) (ant : Ant) :
    (b.take id ant).Twins (b'.take id ant) :=
  ((twins.changeCell _ _).changeLedger _ _).changeAnt id fun _ => rfl

theorem put (twins : b.Twins b') (id : Nat) (ant : Ant) : (b.put id ant).Twins (b'.put id ant) :=
  ((twins.changeCell _ _).changeLedger _ _).changeAnt id fun _ => rfl

theorem relocate (twins : b.Twins b') (id : Nat) (ant : Ant) (target : Nat) :
    (b.relocate id ant target).Twins (b'.relocate id ant target) :=
  ((twins.changeCell _ _).changeCell _ _).changeAnt id fun _ => rfl

/-- An instruction of a living ant has the same effect and leads to the same state. -/
theorem act (twins : b.Twins b') (sound : b.Sound) {id : Nat} {ant : Ant}
    (present : b.ant? id = some ant) (alive : ant.alive) (i : Instruction) :
    (b.act id ant i).1.Twins (b'.act id ant i).1 ∧ (b'.act id ant i).2 = (b.act id ant i).2 := by
  cases i with
  | sense gaze ifTrue ifFalse condition =>
    simp only [Battle.act, twins.layout, twins.holds sound]
    split
    · exact ⟨twins, rfl⟩
    · exact ⟨twins, rfl⟩
  | mark marker next => exact ⟨twins.changeMarkers ant _, rfl⟩
  | unmark marker next => exact ⟨twins.changeMarkers ant _, rfl⟩
  | pickUp ifTaken ifNot =>
    simp only [Battle.act, twins.cellAt]
    split
    · exact ⟨twins, rfl⟩
    · exact ⟨twins.take id ant, rfl⟩
  | drop next =>
    simp only [Battle.act]
    split
    · exact ⟨twins.put id ant, trivial⟩
    · exact ⟨twins, trivial⟩
  | turn rotation next => exact ⟨twins.changeAnt id fun _ => rfl, rfl⟩
  | move ifMoved ifBlocked =>
    simp only [Battle.act, twins.layout, twins.isFree]
    by_cases free : b.isFree (b.layout.neighbor ant.slot ant.facing)
    · have moved := twins.relocate id ant (b.layout.neighbor ant.slot ant.facing)
      simp only [if_pos free]
      exact ⟨moved.judgeAround (sound.relocate present alive free) _, trivial⟩
    · simp only [if_neg free]
      exact ⟨twins, trivial⟩
  | flip odds ifZero ifOther =>
    simp only [Battle.act, twins.dice]
    generalize b.dice.roll odds = roll
    exact ⟨{ twins with dice := rfl }, trivial⟩

/-! ### Turns and rounds -/

/-- The living have the same turn in both battles, and the dead have none. -/
theorem takeTurn (twins : b.Twins b') (sound : b.Sound) (id : Nat) :
    (b.takeTurn id).Twins (b'.takeTurn id) := by
  by_cases lives : ∃ ant, b.ant? id = some ant ∧ ant.alive
  · obtain ⟨ant, present, alive⟩ := lives
    obtain ⟨present', -⟩ := twins.present_iff.2 ⟨present, alive⟩
    simp only [Battle.takeTurn, present, present', alive, twins.brains, Bool.not_true,
      Bool.false_eq_true, if_false]
    split
    · exact twins.changeAnt id fun _ => rfl
    · cases (b.brains.get ant.colony).get? ant.state with
      | none => exact twins
      | some i =>
        obtain ⟨acted, next⟩ := twins.act sound present alive i
        dsimp only
        rw [next]
        exact acted.changeAnt id fun _ => rfl
  · have gone : ¬∃ ant, b'.ant? id = some ant ∧ ant.alive := by
      rintro ⟨ant, lives'⟩
      exact lives ⟨ant, twins.present_iff.1 lives'⟩
    rw [takeTurn_of_not_living lives, takeTurn_of_not_living gone]
    exact twins

theorem foldl_takeTurn (twins : b.Twins b') (sound : b.Sound) (ids : List Nat) :
    (ids.foldl Battle.takeTurn b).Twins (ids.foldl Battle.takeTurn b') := by
  induction ids generalizing b b' with
  | nil => exact twins
  | cons id ids ih => exact ih (twins.takeTurn sound id) (sound.deeds (deeds_takeTurn b id))

theorem playRound (twins : b.Twins b') (sound : b.Sound) : b.playRound.Twins b'.playRound := by
  have turns := twins.foldl_takeTurn sound (List.range b.ants.size)
  rw [Battle.playRound, Battle.playRound, twins.size]
  exact { turns with round := congrArg (· + 1) turns.round }

theorem playRounds (twins : b.Twins b') (sound : b.Sound) (n : Nat) :
    (playRounds n b).Twins (playRounds n b') := by
  induction n with
  | zero => exact twins
  | succ n ih =>
    rw [playRounds_succ, playRounds_succ]
    exact ih.playRound (sound.deeds (deeds_playRounds n b))

/-! ### What twins show -/

theorem dumpLines (twins : b.Twins b') (sound : b.Sound) : b'.dumpLines = b.dumpLines := by
  rw [Battle.dumpLines, Battle.dumpLines, twins.layout]
  apply List.map_congr_left
  rintro ⟨place, slot⟩ -
  have cell : b'.cellAt slot = b.cellAt slot := twins.cellAt slot
  have occupant := twins.occupant? sound slot
  dsimp only
  rw [cell]
  rw [Battle.occupant?, Battle.occupant?, cell] at occupant
  rw [dumpCell, dumpCell]
  cases named : (b.cellAt slot).occupant with
  | none => rfl
  | some id =>
    rw [named, Option.bind_some, Option.bind_some] at occupant
    simp only [occupant]

/-- The account of the food and the number of the living can be read off the board. -/
theorem tally (twins : b.Twins b') (balanced : b.Balanced) (balanced' : b'.Balanced) :
    b'.tally = b.tally := by
  have living : b'.living = b.living := by
    funext c
    rw [Battle.living, Battle.living, countP_livingAnts, countP_livingAnts, twins.ants]
  have carriers (c : Colony) : b'.carriers c = b.carriers c := by
    simp only [Battle.carriers, Bool.and_assoc, countP_livingAnts, twins.ants]
  have ledger : b'.ledger = b.ledger := by
    apply Ledger.ext_entries
    · intro o
      rw [balanced.lying, balanced'.lying, foodOn, twins.cells, ← foodOn]
    · intro c
      rw [balanced.carried, balanced'.carried, carriers]
  rw [Battle.tally, Battle.tally, twins.round, ledger, living]

end Twins

/-! ### Battles with the same dump -/

theorem cells_ext {b b' : Battle} (size : b'.cells.size = b.cells.size)
    (same : ∀ slot, b'.cellAt slot = b.cellAt slot) : b'.cells = b.cells := by
  apply Array.ext size
  intro slot lt' lt
  have cell := same slot
  simpa [cellAt, lt, lt'] using cell

section Dumps

variable {w : World} {brains : PerColony Brain} {seed : Nat} {b : Battle}

/-- Slots that belong to no cell of the map hold bare rock for ever. -/
theorem cellAt_of_filler (started : start w brains seed = .ok b) (n k : Nat) {slot : Nat}
    (filler : slot ∉ b.layout.slots.map Prod.snd) : (b.moment n k).cellAt slot = .rock := by
  have sound := sound_moment started n k
  have filler' : slot ∉ (b.moment n k).layout.slots.map Prod.snd := by
    rwa [(lasting_moment b n k).layout]
  obtain ⟨nobody, nothing, unmarked⟩ := sound.bare slot (.inr filler')
  have isRock := sound.filler slot filler'
  have owner := (sameGround_of_deeds (deeds_moment b n k)).owner slot
  rw [(begun_of_start started).cellAt_of_notMem filler] at owner
  cases cell : (b.moment n k).cellAt slot
  rw [cell] at nobody nothing unmarked isRock owner
  rw [Cell.rock, Cell.mk.injEq]
  exact ⟨isRock, nobody, owner, nothing, unmarked⟩

/-- An ant that a dump shows is the same ant in every battle of which it is the dump. -/
theorem ant?_of_alike {b b' : Battle} (sound : b.Sound) (sound' : b'.Sound)
    (alike : ∀ here ∈ b.layout.slots, b.AlikeAt b' here here) {id : Nat} {ant : Ant}
    (present : b.ant? id = some ant) (alive : ant.alive) : b'.ant? id = some ant := by
  obtain ⟨onMap, -, occupied⟩ := sound.stands id ant present alive
  obtain ⟨here, mem, slot⟩ := List.mem_map.1 onMap
  obtain ⟨-, cell, occupant⟩ := alike here mem
  rw [slot] at cell occupant
  obtain ⟨ant', present', alive', slot'⟩ := sound'.named ant.slot id (cell ▸ occupied)
  rw [occupant?, occupant?, ← cell, occupied, Option.bind_some, Option.bind_some, present,
    present'] at occupant
  obtain ⟨looks⟩ := occupant
  rw [present', Option.some.injEq]
  cases ant
  cases ant'
  rw [Ant.mk.injEq]
  exact ⟨looks.colony.symm, slot', looks.state.symm, looks.resting.symm, looks.facing.symm,
    looks.laden.symm, alive'.trans alive.symm⟩

variable {seed' : Nat} {b' : Battle}

/-- Two battles on a map with the same dump, the same round and the same dice are twins. -/
theorem twins_of_dumpLines (started : start w brains seed = .ok b)
    (started' : start w brains seed' = .ok b') {n k n' k' : Nat}
    (dump : (b.moment n k).dumpLines = (b'.moment n' k').dumpLines)
    (round : (b.moment n k).round = (b'.moment n' k').round)
    (dice : (b.moment n k).dice = (b'.moment n' k').dice) :
    (b.moment n k).Twins (b'.moment n' k') := by
  have sound := sound_moment started n k
  have sound' := sound_moment started' n' k'
  have lasting := lasting_moment b n k
  have lasting' := lasting_moment b' n' k'
  obtain rfl : b' = b.withDice seed' (.ofSeed seed') :=
    Except.ok.inj (started'.symm.trans (start_withDice started seed'))
  have layout : ((b.withDice seed' (.ofSeed seed')).moment n' k').layout = (b.moment n k).layout :=
    lasting'.layout.trans lasting.layout.symm
  have alike := alike_of_dumpLines sound sound' dump
  rw [layout, List.forall₂_same] at alike
  have alike' := alike_of_dumpLines sound' sound dump.symm
  rw [layout, List.forall₂_same, ← layout] at alike'
  refine ⟨layout, lasting'.brains.trans lasting.brains.symm, ?cells, ?ants, dice.symm, round.symm⟩
  case cells =>
    apply cells_ext
    · rw [(sameGround_of_deeds (deeds_moment _ n' k')).size,
        (sameGround_of_deeds (deeds_moment b n k)).size]
      rfl
    · intro slot
      by_cases onMap : slot ∈ (b.moment n k).layout.slots.map Prod.snd
      · obtain ⟨here, mem, rfl⟩ := List.mem_map.1 onMap
        exact (alike here mem).cell.symm
      · rw [lasting.layout] at onMap
        rw [cellAt_of_filler started n k onMap, cellAt_of_filler started' n' k' onMap]
  case ants =>
    apply livingAnts_ext
    · rw [lasting.size, lasting'.size]
      rfl
    · intro id ant
      constructor
      · rintro ⟨present', alive⟩
        exact ⟨ant?_of_alike sound' sound alike' present' alive, alive⟩
      · rintro ⟨present, alive⟩
        exact ⟨ant?_of_alike sound sound' alike present alive, alive⟩

/-- All that a battle will ever show depends on its dump, its round and its dice alone: two battles
on a map between the same brains that agree in these have the same dump, the same dice and the same
figures after any number of further rounds. The seeds with which they began and the data of their
dead ants may differ. -/
theorem dump_decides_future (started : start w brains seed = .ok b)
    (started' : start w brains seed' = .ok b') {n n' : Nat}
    (dump : (playRounds n b).dumpLines = (playRounds n' b').dumpLines)
    (round : (playRounds n b).round = (playRounds n' b').round)
    (dice : (playRounds n b).dice = (playRounds n' b').dice) (m : Nat) :
    (playRounds m (playRounds n b)).dumpLines = (playRounds m (playRounds n' b')).dumpLines ∧
      (playRounds m (playRounds n b)).dice = (playRounds m (playRounds n' b')).dice ∧
      (playRounds m (playRounds n b)).tally = (playRounds m (playRounds n' b')).tally := by
  have sound : (playRounds n b).Sound := sound_moment started n 0
  have twins : (b.moment n 0).Twins (b'.moment n' 0) :=
    twins_of_dumpLines started started' dump round dice
  have later := twins.playRounds sound m
  have balanced {seed : Nat} {b : Battle} (started : start w brains seed = .ok b) (n : Nat) :
      (playRounds m (playRounds n b)).Balanced := by
    have begun := begun_of_start started
    exact (stores_of_deeds begun.sound begun.balanced
      ((deeds_playRounds n b).trans (deeds_playRounds m _))).1
  exact ⟨(later.dumpLines (sound.deeds (deeds_playRounds m _))).symm, later.dice.symm,
    (later.tally (balanced started n) (balanced started' n')).symm⟩

end Dumps

/-- A brain that waits for a round and then steps ahead whenever it can. -/
def latecomer : Brain where
  instructions := #[.drop 1, .move 1 1]
  size_pos := by decide
  successors_lt := by decide

/-- A brain that flips once or twice, and remembers which. -/
def doubter : Brain where
  instructions := #[.flip 2 1 2, .flip 1 3 3, .drop 4, .drop 3, .drop 4]
  size_pos := by decide
  successors_lt := by decide

/-- The besieged ant flips twice with the one seed and once with the other, which begins one step
ahead. Then it dies, and nobody can tell how often it flipped. -/
theorem siege_of_doubters : ∃ b b', start siege ⟨latecomer, doubter⟩ 7 = .ok b ∧
    start siege ⟨latecomer, doubter⟩ 158868340 = .ok b' ∧
    (playRounds 2 b).ants ≠ (playRounds 2 b').ants ∧
    ∀ m, (playRounds m (playRounds 2 b)).dumpLines = (playRounds m (playRounds 2 b')).dumpLines ∧
      (playRounds m (playRounds 2 b)).dice = (playRounds m (playRounds 2 b')).dice ∧
      (playRounds m (playRounds 2 b)).tally = (playRounds m (playRounds 2 b')).tally := by
  obtain ⟨b, b', started, started', differ, dump, dice⟩ :
      ∃ b b', start siege ⟨latecomer, doubter⟩ 7 = .ok b ∧
        start siege ⟨latecomer, doubter⟩ 158868340 = .ok b' ∧
        (playRounds 2 b).ants ≠ (playRounds 2 b').ants ∧
        (playRounds 2 b).dumpLines = (playRounds 2 b').dumpLines ∧
        (playRounds 2 b).dice = (playRounds 2 b').dice := by
    refine ⟨_, _, rfl, rfl, ?_, ?_, ?_⟩
    · decide +kernel
    · decide +kernel
    · decide +kernel
  refine ⟨b, b', started, started', differ, fun m => ?_⟩
  have round : (playRounds 2 b).round = (playRounds 2 b').round := by
    rw [round_playRounds, round_playRounds, (begun_of_start started).round,
      (begun_of_start started').round]
  exact dump_decides_future started started' dump round dice m

end Battle

end Formicary
