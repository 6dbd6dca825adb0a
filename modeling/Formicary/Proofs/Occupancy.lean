/-
Module: Formicary.Proofs.Occupancy
Purpose: Living ants and occupied cells name each other, rock and filler stay bare, and every ant
  stays fit to act, at all moments of a battle.
Main exports: Ant.Fit, Battle.Sound, Battle.Deed.sound, Battle.sound_moment,
  Battle.occupancy_at_all_moments
-/
import Formicary.Proofs.Course
import Formicary.Proofs.Start

namespace Formicary

/-- What holds of every ant, alive or dead, of a colony whose brain has `size` states. -/
structure Ant.Fit (a : Ant) (size : Nat) : Prop where
  resting_le : a.resting ≤ 14
  state_lt : a.state < size
  unladen : a.alive = false → a.laden = false

namespace Battle

open Relation (ReflTransGen)

/-- The ants and the cells of a battle agree about who stands where, and nobody and nothing is where
it cannot be. The map's own slots are those of its layout; all other slots are filler. -/
structure Sound (b : Battle) : Prop where
  stands : ∀ id ant, b.ant? id = some ant → ant.alive →
    ant.slot ∈ b.layout.slots.map Prod.snd ∧ (b.cellAt ant.slot).isRock = false ∧
      (b.cellAt ant.slot).occupant = some id
  named : ∀ slot id, (b.cellAt slot).occupant = some id →
    ∃ ant, b.ant? id = some ant ∧ ant.alive ∧ ant.slot = slot
  bare : ∀ slot, (b.cellAt slot).isRock ∨ slot ∉ b.layout.slots.map Prod.snd →
    (b.cellAt slot).occupant = none ∧ (b.cellAt slot).food = 0 ∧
      (b.cellAt slot).markers = .both .empty
  filler : ∀ slot, slot ∉ b.layout.slots.map Prod.snd → (b.cellAt slot).isRock
  fit : ∀ id ant, b.ant? id = some ant → ant.Fit (b.brains.get ant.colony).size

namespace Sound

variable {b : Battle} (sound : b.Sound)

include sound

theorem onBoard {id : Nat} {ant : Ant} (present : b.ant? id = some ant) (alive : ant.alive) :
    ant.slot < b.cells.size := by
  refine lt_size_of_cellAt_ne fun bare => ?_
  have occupied := (sound.stands id ant present alive).2.2
  rw [bare] at occupied
  cases occupied

theorem onMap {slot : Nat} (ground : (b.cellAt slot).isRock = false) :
    slot ∈ b.layout.slots.map Prod.snd := by
  by_contra filler
  simp [sound.filler slot filler] at ground

theorem not_barren {slot : Nat} (ground : (b.cellAt slot).isRock = false) :
    ¬((b.cellAt slot).isRock ∨ slot ∉ b.layout.slots.map Prod.snd) := by
  rintro (rock | filler)
  · simp [ground] at rock
  · exact filler (sound.onMap ground)

/-- Every ant's state has an instruction. -/
theorem exists_told {id : Nat} {ant : Ant} (present : b.ant? id = some ant) :
    ∃ i, (b.brains.get ant.colony).get? ant.state = some i :=
  ⟨_, Array.getElem?_eq_getElem (sound.fit id ant present).state_lt⟩

/-- Two living ants never share a cell. -/
theorem slot_inj {i j : Nat} {x y : Ant} (hx : b.ant? i = some x) (hy : b.ant? j = some y)
    (aliveX : x.alive) (aliveY : y.alive) (same : x.slot = y.slot) : i = j := by
  have atX := (sound.stands i x hx aliveX).2.2
  have atY := (sound.stands j y hy aliveY).2.2
  rw [same, atY, Option.some.injEq] at atX
  exact atX.symm

/-! ### Changes that leave everyone where they are -/

theorem changeAnt {id : Nat} {f : Ant → Ant}
    (same : ∀ a, (f a).colony = a.colony ∧ (f a).slot = a.slot ∧ (f a).alive = a.alive)
    (fit : ∀ ant, b.ant? id = some ant → (f ant).Fit (b.brains.get ant.colony).size) :
    (b.changeAnt id f).Sound := by
  have before {j : Nat} {ant' : Ant} (present : (b.changeAnt id f).ant? j = some ant') :
      ∃ ant, b.ant? j = some ant ∧ ant'.colony = ant.colony ∧ ant'.slot = ant.slot ∧
        ant'.alive = ant.alive ∧ (ant' = ant ∨ id = j ∧ ant' = f ant) := by
    rw [ant?_changeAnt] at present
    split at present
    · rename_i this
      obtain ⟨ant, formerly, rfl⟩ := Option.map_eq_some_iff.1 present
      exact ⟨ant, formerly, (same ant).1, (same ant).2.1, (same ant).2.2, .inr ⟨this, rfl⟩⟩
    · exact ⟨ant', present, rfl, rfl, rfl, .inl rfl⟩
  refine ⟨?_, ?_, sound.bare, sound.filler, ?_⟩
  · intro j ant' present alive
    obtain ⟨ant, present, -, slot, alive', -⟩ := before present
    rw [slot]
    exact sound.stands j ant present (alive' ▸ alive)
  · intro slot j occupied
    obtain ⟨ant, present, alive, rfl⟩ := sound.named slot j occupied
    rw [ant?_changeAnt, present]
    split
    · exact ⟨f ant, rfl, (same ant).2.2 ▸ alive, (same ant).2.1⟩
    · exact ⟨ant, rfl, alive, rfl⟩
  · intro j ant' present
    obtain ⟨ant, present, colony, -, -, kept | ⟨rfl, changed⟩⟩ := before present
    · rw [kept]
      exact sound.fit j ant present
    · rw [colony, changed]
      exact fit ant present

theorem changeCell {slot : Nat} {f : Cell → Cell}
    (same : ∀ c, (f c).isRock = c.isRock ∧ (f c).occupant = c.occupant)
    (ground : (b.cellAt slot).isRock = false) : (b.changeCell slot f).Sound := by
  have rock (s : Nat) : ((b.changeCell slot f).cellAt s).isRock = (b.cellAt s).isRock := by
    rw [cellAt_changeCell]; split
    · exact (same _).1
    · rfl
  have occupant (s : Nat) : ((b.changeCell slot f).cellAt s).occupant = (b.cellAt s).occupant := by
    rw [cellAt_changeCell]; split
    · exact (same _).2
    · rfl
  refine ⟨?_, ?_, ?_, ?_, sound.fit⟩
  · intro id ant present alive
    rw [rock, occupant]
    exact sound.stands id ant present alive
  · intro s id occupied
    rw [occupant] at occupied
    exact sound.named s id occupied
  · -- the changed cell is neither rock nor filler
    intro s barren
    rw [rock] at barren
    have other : slot ≠ s := by
      rintro rfl
      exact sound.not_barren ground barren
    rw [cellAt_changeCell, if_neg fun h => other h.1]
    exact sound.bare s barren
  · intro s filler
    rw [rock]
    exact sound.filler s filler

theorem changeLedger (f : Ledger → Ledger) : (b.changeLedger f).Sound :=
  ⟨sound.stands, sound.named, sound.bare, sound.filler, sound.fit⟩

end Sound

theorem Quiet.sound {b b' : Battle} (sound : b.Sound) (change : Quiet b b') : b'.Sound := by
  cases change with
  | rest present alive tired =>
    refine sound.changeAnt (fun _ => ⟨rfl, rfl, rfl⟩) fun ant present => ?_
    have fit := sound.fit _ ant present
    exact { fit with resting_le := (Nat.sub_le _ _).trans fit.resting_le }
  | think known =>
    refine sound.changeAnt (fun _ => ⟨rfl, rfl, rfl⟩) fun ant present => ?_
    exact { sound.fit _ ant present with state_lt := known ant present }
  | mark present alive f =>
    exact sound.changeCell (fun _ => ⟨rfl, rfl⟩) (sound.stands _ _ present alive).2.1
  | take present alive unladen food =>
    have dug := sound.changeCell (f := fun cell => { cell with food := cell.food - 1 })
      (fun _ => ⟨rfl, rfl⟩) (sound.stands _ _ present alive).2.1
    refine (dug.changeLedger _).changeAnt (fun _ => ⟨rfl, rfl, rfl⟩) fun ant' present' => ?_
    cases present.symm.trans present'
    exact { sound.fit _ _ present with unladen := fun dead => by simp [alive] at dead }
  | put present alive laden =>
    have heaped := sound.changeCell (f := fun cell => { cell with food := cell.food + 1 })
      (fun _ => ⟨rfl, rfl⟩) (sound.stands _ _ present alive).2.1
    refine (heaped.changeLedger _).changeAnt (fun _ => ⟨rfl, rfl, rfl⟩) fun ant' present' => ?_
    exact { sound.fit _ _ present' with unladen := fun _ => rfl }
  | turn d =>
    refine sound.changeAnt (fun _ => ⟨rfl, rfl, rfl⟩) fun ant present => ?_
    exact { sound.fit _ ant present with }
  | roll => exact ⟨sound.stands, sound.named, sound.bare, sound.filler, sound.fit⟩
  | pass => exact ⟨sound.stands, sound.named, sound.bare, sound.filler, sound.fit⟩

/-! ### Steps and deaths -/

theorem isFree_iff {b : Battle} {slot : Nat} :
    b.isFree slot ↔ (b.cellAt slot).isRock = false ∧ (b.cellAt slot).occupant = none := by
  simp [isFree]

section Relocate

variable {b : Battle} {id target : Nat} {ant : Ant} (sound : b.Sound)
  (present : b.ant? id = some ant) (alive : ant.alive) (free : b.isFree target)

include sound present alive free

/-- A step changes who stands on two cells: the one left and the one entered. -/
theorem Sound.occupant_relocate (s : Nat) :
    ((b.relocate id ant target).cellAt s).occupant =
      if target = s then some id else if ant.slot = s then none else (b.cellAt s).occupant := by
  rw [cellAt_relocate]
  by_cases onBoard : s < b.cells.size
  · simp [onBoard]
  · have entered : target < b.cells.size :=
      lt_size_of_cellAt_ne fun bare => by simp [isFree_iff, bare, Cell.rock] at free
    have left : ant.slot < b.cells.size := sound.onBoard present alive
    have notEntered : target ≠ s := by omega
    have notLeft : ant.slot ≠ s := by omega
    simp [onBoard, notEntered, notLeft]

theorem Sound.relocate : (b.relocate id ant target).Sound := by
  obtain ⟨ground, vacant⟩ := isFree_iff.1 free
  have occupant := sound.occupant_relocate present alive free
  have rock (s : Nat) : ((b.relocate id ant target).cellAt s).isRock = (b.cellAt s).isRock := by
    rw [cellAt_relocate]
  refine ⟨?stands, ?named, ?bare, fun s filler => ?filler, ?fit⟩
  case stands =>
    intro j other present' alive'
    rw [ant?_relocate] at present'
    rw [rock, occupant]
    split at present'
    · rename_i this
      rw [← this, present, Option.map_some, Option.some.injEq] at present'
      subst present'
      exact ⟨sound.onMap ground, ground, by rw [if_pos rfl, this]⟩
    · rename_i differ
      obtain ⟨onMap, ground', there⟩ := sound.stands j other present' alive'
      have notEntered : target ≠ other.slot := by
        rintro rfl
        simp [vacant] at there
      have notLeft : ant.slot ≠ other.slot := fun same =>
        differ (sound.slot_inj present present' alive alive' same)
      rw [if_neg notEntered, if_neg notLeft]
      exact ⟨onMap, ground', there⟩
  case named =>
    intro s j occupied
    rw [occupant] at occupied
    rw [ant?_relocate]
    split at occupied
    · rename_i entered
      cases occupied
      exact ⟨{ ant with slot := target, resting := moveRest }, by rw [if_pos rfl, present]; rfl,
        alive, entered⟩
    · split at occupied
      · cases occupied
      · rename_i notLeft
        obtain ⟨other, present', alive', rfl⟩ := sound.named s j occupied
        have differ : id ≠ j := by
          rintro rfl
          cases present.symm.trans present'
          exact notLeft rfl
        exact ⟨other, by rw [if_neg differ, present'], alive', rfl⟩
  case bare =>
    intro s barren
    rw [rock] at barren
    have notEntered : target ≠ s := by
      rintro rfl
      exact sound.not_barren ground barren
    obtain ⟨nobody, nothing, unmarked⟩ := sound.bare s barren
    rw [occupant, if_neg notEntered, nobody, ite_self, cellAt_relocate]
    exact ⟨rfl, nothing, unmarked⟩
  case filler =>
    rw [rock]
    exact sound.filler s filler
  case fit =>
    intro j other present'
    rw [ant?_relocate] at present'
    split at present'
    · obtain ⟨former, formerly, rfl⟩ := Option.map_eq_some_iff.1 present'
      exact { sound.fit j former formerly with resting_le := Nat.le_refl _ }
    · exact sound.fit j other present'

end Relocate

theorem Sound.kill {b : Battle} {slot id : Nat} (sound : b.Sound)
    (named : (b.cellAt slot).occupant = some id) : (b.kill id).Sound := by
  obtain ⟨ant, present, alive, rfl⟩ := sound.named slot id named
  have ground := (sound.stands id ant present alive).2.1
  have onBoard := sound.onBoard present alive
  have elsewhere {s : Nat} (other : ant.slot ≠ s) : (b.kill id).cellAt s = b.cellAt s := by
    rw [cellAt_kill present, if_neg fun h => other h.1]
  have rock (s : Nat) : ((b.kill id).cellAt s).isRock = (b.cellAt s).isRock := by
    rw [cellAt_kill present]
    split <;> rfl
  have kept := lasting_kill b id
  refine ⟨?stands, ?named, ?bare, fun s filler => ?filler, ?fit⟩
  case stands =>
    intro j other present' alive'
    rw [ant?_kill present] at present'
    split at present'
    · cases present'
      cases alive'
    · rename_i differ
      have apart : ant.slot ≠ other.slot := fun same =>
        differ (sound.slot_inj present present' alive alive' same)
      rw [elsewhere apart, kept.layout]
      exact sound.stands j other present' alive'
  case named =>
    intro s j occupied
    have apart : ant.slot ≠ s := by
      rintro rfl
      rw [cellAt_kill present, if_pos ⟨rfl, onBoard⟩] at occupied
      cases occupied
    rw [elsewhere apart] at occupied
    obtain ⟨other, present', alive', rfl⟩ := sound.named s j occupied
    have differ : id ≠ j := by
      rintro rfl
      cases present.symm.trans present'
      exact apart rfl
    exact ⟨other, by rw [ant?_kill present, if_neg differ, present'], alive', rfl⟩
  case bare =>
    intro s barren
    rw [rock, kept.layout] at barren
    have apart : ant.slot ≠ s := by
      rintro rfl
      exact sound.not_barren ground barren
    rw [elsewhere apart]
    exact sound.bare s barren
  case filler =>
    rw [rock]
    exact sound.filler s (kept.layout ▸ filler)
  case fit =>
    intro j other present'
    rw [kept.brains]
    rw [ant?_kill present] at present'
    split at present'
    · cases present'
      exact { sound.fit id ant present with unladen := fun _ => rfl }
    · exact sound.fit j other present'

theorem Deed.sound {b b' : Battle} (sound : b.Sound) (deed : Deed b b') : b'.Sound := by
  cases deed with
  | quiet change => exact change.sound sound
  | move present alive free => exact sound.relocate present alive free
  | die named surrounded => exact sound.kill named

theorem Sound.deeds {b b' : Battle} (sound : b.Sound) (deeds : ReflTransGen Deed b b') : b'.Sound :=
  deeds_preserve (fun _ _ sound deed => deed.sound sound) sound deeds

/-! ### The start -/

theorem Begun.sound {w : World} {b : Battle} (begun : Begun w b) : b.Sound := by
  refine ⟨?stands, ?named, ?bare, fun s filler => ?filler, ?fit⟩
  case stands =>
    intro id ant present _
    obtain ⟨front, t, back, split, owner, -, rfl⟩ := begun.exists_site_of_ant present
    have onMap : ant.slot ∈ b.layout.slots.map Prod.snd := by
      rw [← begun.map_snd_laid, split]
      simp
    have notRock : t ≠ .rock := by
      rintro rfl
      cases owner
    rw [begun.cellAt_of_site split]
    exact ⟨onMap, by simpa [settled, Cell.ofTerrain] using notRock, by simp [settled, owner]⟩
  case named =>
    intro slot id occupied
    by_cases onMap : slot ∈ b.layout.slots.map Prod.snd
    · obtain ⟨front, t, back, split⟩ := begun.exists_site_of_mem onMap
      rw [begun.cellAt_of_site split] at occupied
      obtain ⟨c, owner, rfl⟩ := Option.map_eq_some_iff.1 occupied
      exact ⟨.fresh c slot, begun.ant?_of_site split owner, rfl, rfl⟩
    · rw [begun.cellAt_of_notMem onMap] at occupied
      cases occupied
  case bare =>
    intro slot barren
    by_cases onMap : slot ∈ b.layout.slots.map Prod.snd
    · obtain ⟨front, t, back, split⟩ := begun.exists_site_of_mem onMap
      rw [begun.cellAt_of_site split] at barren ⊢
      have rock : t = .rock := by simpa [settled, Cell.ofTerrain, onMap] using barren
      subst rock
      exact ⟨rfl, rfl, rfl⟩
    · rw [begun.cellAt_of_notMem onMap]
      exact ⟨rfl, rfl, rfl⟩
  case filler =>
    rw [begun.cellAt_of_notMem filler]
    rfl
  case fit =>
    intro id ant present
    obtain ⟨front, t, back, -, -, fresh, -⟩ := begun.exists_site_of_ant present
    rw [fresh]
    exact ⟨Nat.zero_le _, (b.brains.get ant.colony).size_pos, fun dead => by cases dead⟩

section Moments

variable {w : World} {brains : PerColony Brain} {seed : Nat} {b : Battle}

theorem sound_moment (started : start w brains seed = .ok b) (n k : Nat) : (b.moment n k).Sound :=
  (begun_of_start started).sound.deeds (deeds_moment b n k)

end Moments

/-- The numbers of the living ants. -/
def livingIds (b : Battle) : Set Nat := {id | ∃ ant, b.ant? id = some ant ∧ ant.alive}

/-- The slots of the cells on which some ant stands. -/
def occupiedSlots (b : Battle) : Set Nat := {slot | (b.cellAt slot).occupant ≠ none}

/-- The slot of an ant. -/
def slotOf (b : Battle) (id : Nat) : Nat := ((b.ant? id).map Ant.slot).getD 0

/-- Every living ant has a cell of its own, and every occupied cell a living ant. -/
theorem Sound.bijOn_slotOf {b : Battle} (sound : b.Sound) :
    Set.BijOn b.slotOf b.livingIds b.occupiedSlots := by
  refine ⟨?_, ?_, ?_⟩
  · rintro id ⟨ant, present, alive⟩
    simp [occupiedSlots, slotOf, present, (sound.stands id ant present alive).2.2]
  · rintro i ⟨x, presentX, aliveX⟩ j ⟨y, presentY, aliveY⟩ same
    simp only [slotOf, presentX, presentY, Option.map_some, Option.getD_some] at same
    exact sound.slot_inj presentX presentY aliveX aliveY same
  · intro slot occupied
    obtain ⟨id, named⟩ := Option.ne_none_iff_exists'.1 occupied
    obtain ⟨ant, present, alive, rfl⟩ := sound.named slot id named
    exact ⟨id, ⟨ant, present, alive⟩, by simp [slotOf, present]⟩

/-- The besieged ant is there at the start and alone dies in the first round. -/
theorem siege_falls : ∃ b, start siege ⟨marcher, idler⟩ 1 = .ok b ∧
    b.mustered = ⟨5, 1⟩ ∧ (b.moment 1 0).living .red = 5 ∧ (b.moment 1 0).living .black = 0 := by
  refine ⟨_, rfl, rfl, ?_, ?_⟩ <;> decide +kernel

/-- After every round and between the turns of any two ants: the living ants and the occupied cells
name each other one to one, rock and filler stay bare, and all ants and markers stay in their
ranges. A map that repeats a place has no starting battle. -/
theorem occupancy_at_all_moments {w : World} {brains : PerColony Brain} {seed : Nat} {b : Battle}
    (started : start w brains seed = .ok b) (n k : Nat) :
    (b.moment n k).Sound ∧
      Set.BijOn (b.moment n k).slotOf (b.moment n k).livingIds (b.moment n k).occupiedSlots ∧
      (∀ id ant, (b.moment n k).ant? id = some ant → ant.facing.val < 6) ∧
      ∀ slot c, (((b.moment n k).cellAt slot).markers.get c).mask.toNat < 64 := by
  have sound := sound_moment started n k
  exact ⟨sound, sound.bijOn_slotOf, fun _ ant _ => ant.facing.isLt, fun _ _ => BitVec.isLt _⟩

theorem occupancy_after_siege : ∃ b, start siege ⟨marcher, idler⟩ 1 = .ok b ∧
    (b.moment 1 0).living .black = 0 ∧ (b.moment 1 0).Sound := by
  obtain ⟨b, started, -, -, fallen⟩ := siege_falls
  exact ⟨b, started, fallen, (occupancy_at_all_moments started 1 0).1⟩

end Battle

end Formicary
