/-
Module: Formicary.Proofs.Neighbours
Purpose: Every ant, dead or alive, is on ground of the map, and the foes that the surround rule counts
  around it are the living ones at distance one, each counted once.
Main exports: Battle.Housed, Battle.housed_moment, Battle.foesBeside, Battle.foes_are_living_neighbours
-/
import Formicary.Proofs.Distance
import Formicary.Proofs.Encirclement

namespace Formicary

/-- The elements of a list with some property, counted by their positions. -/
theorem countP_range_getElem? {α : Type} (p : α → Bool) (xs : List α) :
    ((List.range xs.length).countP fun i => xs[i]?.any p) = xs.countP p := by
  induction xs with
  | nil => rfl
  | cons x xs ih =>
    rw [List.length_cons, List.range_succ_eq_map, List.countP_cons, List.countP_map,
      List.countP_cons, ← ih]
    rfl

namespace Battle

/-! ### Ground under everybody -/

/-- No ant is on rock, neither the living nor the dead. -/
def Housed (b : Battle) : Prop :=
  ∀ id ant, b.ant? id = some ant → (b.cellAt ant.slot).isRock = false

/-- Where everybody stays on ground that stays, everybody is on ground. -/
theorem Housed.of_thinned {b b' : Battle} (housed : b.Housed) (thinned : Thinned b b')
    (ground : SameGround b b') : b'.Housed := by
  intro id ant' present'
  obtain ⟨ant, present, slot, -⟩ := thinned.stays id ant' present'
  rw [ground.isRock, slot]
  exact housed id ant present

theorem Deed.housed {b b' : Battle} (housed : b.Housed) (deed : Deed b b') : b'.Housed := by
  have ground := deed.sameGround
  cases deed with
  | quiet change => exact housed.of_thinned change.thinned ground
  | die named surrounded => exact housed.of_thinned (thinned_kill b _) ground
  | move present alive free =>
    intro j other present'
    rw [ground.isRock]
    rw [ant?_relocate] at present'
    split at present'
    · obtain ⟨former, -, rfl⟩ := Option.map_eq_some_iff.1 present'
      exact (isFree_iff.1 free).1
    · exact housed j other present'

theorem Begun.housed {w : World} {b : Battle} (begun : Begun w b) : b.Housed := by
  intro id ant present
  obtain ⟨-, -, -, -, -, fresh, -⟩ := begun.exists_site_of_ant present
  have alive : ant.alive := by rw [fresh]; rfl
  exact (begun.sound.stands id ant present alive).2.1

section Moments

variable {w : World} {brains : PerColony Brain} {seed : Nat} {b : Battle}

theorem housed_moment (started : start w brains seed = .ok b) (n k : Nat) :
    (b.moment n k).Housed :=
  deeds_preserve (fun _ _ housed deed => deed.housed housed) (begun_of_start started).housed
    (deeds_moment b n k)

/-- Nobody ever leaves the part of the plane where distances can be told in words of 32 bits. -/
theorem close_moment (close : w.Close) (started : start w brains seed = .ok b) {n k id : Nat}
    {ant : Ant} (present : (b.moment n k).ant? id = some ant) : (b.layout.hexAt ant.slot).Close := by
  have onMap := (sound_moment started n k).onMap (housed_moment started n k id ant present)
  rw [(lasting_moment b n k).layout] at onMap
  exact (begun_of_start started).covers.close_hexAt close onMap

end Moments

/-! ### The foes around a cell -/

/-- The ants around a cell that are no ants of colony `c`, clockwise from east. -/
def foesBeside (b : Battle) (c : Colony) (slot : Nat) : List Nat :=
  (Direction.all.filterMap fun d => (b.cellAt (b.layout.neighbor slot d)).occupant).filter
    fun id => (b.ant? id).any fun other => other.colony != c

theorem adjacentFoes_eq_length {b : Battle} {id : Nat} {ant : Ant} (present : b.ant? id = some ant)
    (slot : Nat) : b.adjacentFoes slot id = (b.foesBeside ant.colony slot).length := by
  rw [adjacentFoes, present, foesBeside, ← List.countP_eq_length_filter, List.countP_filterMap]
  refine List.countP_congr fun d _ => ?_
  rw [hasFoeOf, occupant?]
  cases (b.cellAt (b.layout.neighbor slot d)).occupant <;> rfl

section Faithful

variable {b : Battle} (sound : b.Sound) (faithful : b.layout.Faithful) {slot : Nat}
  (onMap : slot ∈ b.layout.slots.map Prod.snd) (c : Colony)

include sound faithful onMap

/-- The foes around a cell are the living foes at distance one. -/
theorem mem_foesBeside_iff {id : Nat} :
    id ∈ b.foesBeside c slot ↔ ∃ foe, b.ant? id = some foe ∧ foe.alive ∧ foe.colony ≠ c ∧
      b.layout.distance slot foe.slot = 1 := by
  simp only [foesBeside, List.mem_filter, List.mem_filterMap, Option.any_eq_true, bne_iff_ne]
  constructor
  · rintro ⟨⟨d, -, named⟩, foe, present, hostile⟩
    obtain ⟨ant, present', alive, beside⟩ := sound.named _ id named
    cases present.symm.trans present'
    have standing := (sound.stands id foe present alive).1
    refine ⟨foe, present, alive, hostile, ?_⟩
    exact (faithful.distance_eq_one_iff onMap standing).2 ⟨d, beside.symm⟩
  · rintro ⟨foe, present, alive, hostile, near⟩
    obtain ⟨standing, -, named⟩ := sound.stands id foe present alive
    obtain ⟨d, next⟩ := (faithful.distance_eq_one_iff onMap standing).1 near
    exact ⟨⟨d, Direction.mem_all d, next ▸ named⟩, foe, present, hostile⟩

theorem nodup_foesBeside : (b.foesBeside c slot).Nodup := by
  refine List.Nodup.filter _ (List.Nodup.filterMap ?_ (by decide))
  intro d e id here there
  obtain ⟨x, present, -, atD⟩ := sound.named _ id here
  obtain ⟨y, present', -, atE⟩ := sound.named _ id there
  cases present.symm.trans present'
  exact faithful.neighbor_injective onMap (atD.symm.trans atE)

theorem adjacentFoes_eq_countP {id : Nat} {ant : Ant} (present : b.ant? id = some ant) :
    b.adjacentFoes slot id = b.ants.countP fun foe =>
      foe.alive && foe.colony != ant.colony && b.layout.distance slot foe.slot == 1 := by
  rw [adjacentFoes_eq_length present, ← Array.countP_toList, ← countP_range_getElem?,
    List.countP_eq_length_filter]
  apply List.Perm.length_eq
  rw [List.perm_ext_iff_of_nodup (nodup_foesBeside sound faithful onMap _)
    (List.nodup_range.filter _)]
  intro j
  rw [mem_foesBeside_iff sound faithful onMap, List.mem_filter, List.mem_range]
  simp only [Option.any_eq_true, Bool.and_eq_true, bne_iff_ne, beq_iff_eq, Array.getElem?_toList,
    Array.length_toList, and_assoc]
  constructor
  · rintro ⟨foe, present, near⟩
    exact ⟨(Array.getElem?_eq_some_iff.1 present).1, foe, present, near⟩
  · rintro ⟨-, near⟩
    exact near

end Faithful

/-- Around every ant, dead or alive, the surround rule counts the living ants of the other colony at
distance one. It counts each of them once and no others. All ants are on ground of the map, so their
distances can be told in words of 32 bits. -/
theorem foes_are_living_neighbours {w : World} {brains : PerColony Brain} {seed : Nat}
    {b s : Battle} (close : w.Close) (started : start w brains seed = .ok b) {n k : Nat}
    (reached : s = b.moment n k) {id : Nat} {ant : Ant} (present : s.ant? id = some ant) :
    (s.adjacentFoes ant.slot id = s.ants.countP fun foe =>
      foe.alive && foe.colony != ant.colony && s.layout.distance ant.slot foe.slot == 1) ∧
    s.adjacentFoes ant.slot id = (s.foesBeside ant.colony ant.slot).length ∧
    (s.foesBeside ant.colony ant.slot).Nodup ∧
    (∀ j, j ∈ s.foesBeside ant.colony ant.slot ↔
      ∃ foe, s.ant? j = some foe ∧ foe.alive ∧ foe.colony ≠ ant.colony ∧
        s.layout.distance ant.slot foe.slot = 1) ∧
    (s.layout.hexAt ant.slot).Close := by
  subst reached
  have covers := (begun_of_start started).covers
  have sound := sound_moment started n k
  have layout := (lasting_moment b n k).layout
  have faithful : (b.moment n k).layout.Faithful := layout ▸ covers.faithful close.bounded
  have onMap := sound.onMap (housed_moment started n k id ant present)
  refine ⟨adjacentFoes_eq_countP sound faithful onMap present,
    adjacentFoes_eq_length present _, nodup_foesBeside sound faithful onMap _,
    fun j => mem_foesBeside_iff sound faithful onMap _, ?_⟩
  rw [layout]
  exact close_moment close started present

/-- The besieged ant has five foes around it, one of them to the west. -/
theorem foes_of_besieged : siege.Close ∧ ∃ b s ant, start siege ⟨idler, idler⟩ 1 = .ok b ∧
    s = b.moment 1 0 ∧ s.ant? 3 = some ant ∧
    (s.ants.countP fun foe =>
      foe.alive && foe.colony != ant.colony && s.layout.distance ant.slot foe.slot == 1) = 5 ∧
    ∃ foe, s.ant? 2 = some foe ∧ foe.alive ∧ s.layout.distance ant.slot foe.slot = 1 := by
  have close : siege.Close := by decide
  obtain ⟨b, s, ant, started, reached, present, five, west⟩ :
      ∃ b s ant, start siege ⟨idler, idler⟩ 1 = .ok b ∧ s = b.moment 1 0 ∧
        s.ant? 3 = some ant ∧ s.adjacentFoes ant.slot 3 = 5 ∧
        2 ∈ s.foesBeside ant.colony ant.slot := by
    refine ⟨_, _, _, rfl, rfl, rfl, ?_, ?_⟩ <;> decide +kernel
  obtain ⟨counted, -, -, listed, -⟩ := foes_are_living_neighbours close started reached present
  obtain ⟨foe, isFoe, alive, -, near⟩ := (listed 2).1 west
  exact ⟨close, b, s, ant, started, reached, present, counted ▸ five, foe, isFoe, alive, near⟩

end Battle

end Formicary
