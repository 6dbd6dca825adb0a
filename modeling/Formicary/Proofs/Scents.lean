/-
Module: Formicary.Proofs.Scents
Purpose: The names of markers are a colony's own affair: with its markers renamed it plays the same
  battle, and its foe never sees more of them than whether there are any.
Main exports: MarkerSet.rename, Brain.rename, MarkerSet.veil, Battle.disguise, Battle.Disguised,
  Battle.takeTurn_disguise, Battle.veil, Battle.markers_are_private
-/
import Formicary.Proofs.Dumps

namespace Formicary

/-! ### Other names for markers -/

namespace MarkerSet

theorem ext_contains {s s' : MarkerSet} (same : ∀ m, s.contains m = s'.contains m) : s = s' := by
  apply toList_injective
  rw [toList, toList, funext same]

theorem isEmpty_iff_contains {s : MarkerSet} : s.isEmpty ↔ ∀ m, s.contains m = false := by
  rw [isEmpty_iff]
  constructor
  · rintro rfl m
    exact contains_empty m
  · intro none
    exact ext_contains fun m => by rw [none, contains_empty]

/-- The markers under other names. -/
def rename (f : Equiv.Perm Marker) (s : MarkerSet) : MarkerSet :=
  { mask := BitVec.ofFnLE fun m => s.contains (f.symm m) }

theorem contains_rename (f : Equiv.Perm Marker) (s : MarkerSet) (m : Marker) :
    (s.rename f).contains m = s.contains (f.symm m) := by
  rw [contains, rename, BitVec.getLsbD_ofFnLE, dif_pos m.isLt]

theorem isEmpty_rename (f : Equiv.Perm Marker) (s : MarkerSet) :
    (s.rename f).isEmpty = s.isEmpty := by
  rw [Bool.eq_iff_iff, isEmpty_iff_contains, isEmpty_iff_contains]
  simp only [contains_rename]
  exact f.symm.forall_congr_right (q := fun m => s.contains m = false)

theorem rename_insert (f : Equiv.Perm Marker) (s : MarkerSet) (m : Marker) :
    (s.insert m).rename f = (s.rename f).insert (f m) := by
  apply ext_contains
  intro n
  simp only [contains_rename, contains_insert, Equiv.eq_symm_apply, beq_eq_decide]

theorem rename_erase (f : Equiv.Perm Marker) (s : MarkerSet) (m : Marker) :
    (s.erase m).rename f = (s.rename f).erase (f m) := by
  apply ext_contains
  intro n
  simp only [contains_rename, contains_erase, Equiv.eq_symm_apply, bne, beq_eq_decide]

/-- All that is left of the markers is whether there are any. -/
def veil (s : MarkerSet) : MarkerSet :=
  if s.isEmpty then .empty else { mask := BitVec.allOnes 6 }

theorem isEmpty_veil (s : MarkerSet) : s.veil.isEmpty = s.isEmpty := by
  rw [veil]
  split
  · rename_i none
    rw [none]
    rfl
  · rename_i some
    rw [Bool.eq_false_iff.2 some]
    rfl

end MarkerSet

namespace Condition

/-- The condition with its marker under another name. -/
def rename (f : Marker → Marker) : Condition → Condition
  | .marker m => .marker (f m)
  | condition => condition

@[simp] theorem rename_id (condition : Condition) : condition.rename id = condition := by
  cases condition <;> rfl

end Condition

namespace Instruction

/-- The instruction with its marker under another name. -/
def rename (f : Marker → Marker) : Instruction → Instruction
  | .sense gaze ifTrue ifFalse condition => .sense gaze ifTrue ifFalse (condition.rename f)
  | .mark m next => .mark (f m) next
  | .unmark m next => .unmark (f m) next
  | i => i

theorem successors_rename (f : Marker → Marker) (i : Instruction) :
    (i.rename f).successors = i.successors := by
  cases i <;> rfl

theorem rename_id (i : Instruction) : i.rename id = i := by
  cases i <;> simp [rename]

end Instruction

namespace Brain

/-- The brain that has other names for the markers. -/
def rename (f : Marker → Marker) (b : Brain) : Brain where
  instructions := b.instructions.map (Instruction.rename f)
  size_pos := by simpa using b.size_pos
  successors_lt := by
    intro i mem
    obtain ⟨j, isInstruction, rfl⟩ := Array.mem_map.1 mem
    rw [Instruction.successors_rename, Array.size_map]
    exact b.successors_lt j isInstruction

theorem get?_rename (f : Marker → Marker) (b : Brain) (s : State) :
    (b.rename f).get? s = (b.get? s).map (Instruction.rename f) := by
  rw [get?, rename, Array.getElem?_map, get?]

theorem rename_id (b : Brain) : b.rename id = b := by
  cases b
  simp [rename, funext Instruction.rename_id]

end Brain

/-! ### Boards with other markers -/

/-- The cell with the markers of a colony changed. -/
def Cell.disguise (c : Colony) (g : MarkerSet → MarkerSet) (cell : Cell) : Cell :=
  { cell with markers := cell.markers.modify c g }

namespace Battle

/-- The battle with the markers of a colony changed on all cells, and with other brains. -/
def disguise (b : Battle) (c : Colony) (g : MarkerSet → MarkerSet) (brains : PerColony Brain) :
    Battle :=
  { b with brains, cells := b.cells.map (Cell.disguise c g) }

/-- To the ants of colony `d`, changing the markers of colony `c` by `g` looks like giving their own
markers other names by `f`. -/
structure Disguised (c : Colony) (g : MarkerSet → MarkerSet) (d : Colony) (f : Marker → Marker) :
    Prop where
  /-- Cells without markers are told from the others as before. -/
  isEmpty : ∀ s, (g s).isEmpty = s.isEmpty
  contains : d = c → ∀ s m, (g s).contains (f m) = s.contains m
  insert : d = c → ∀ s m, g (s.insert m) = (g s).insert (f m)
  erase : d = c → ∀ s m, g (s.erase m) = (g s).erase (f m)
  /-- The markers of the other colony have the names they had. -/
  foreign : d ≠ c → f = id

theorem disguised_rename (c : Colony) (f : Equiv.Perm Marker) :
    Disguised c (·.rename f) c f where
  isEmpty := MarkerSet.isEmpty_rename f
  contains _ s m := by rw [MarkerSet.contains_rename, Equiv.symm_apply_apply]
  insert _ := MarkerSet.rename_insert f
  erase _ := MarkerSet.rename_erase f
  foreign other := absurd rfl other

theorem disguised_of_foe {c d : Colony} {g : MarkerSet → MarkerSet} (foe : d ≠ c)
    (isEmpty : ∀ s, (g s).isEmpty = s.isEmpty) : Disguised c g d id where
  isEmpty := isEmpty
  contains own := absurd own foe
  insert own := absurd own foe
  erase own := absurd own foe
  foreign _ := rfl

section Disguise

variable {c d : Colony} {g : MarkerSet → MarkerSet} {f : Marker → Marker}
  (hidden : Disguised c g d f) (b : Battle) (brains : PerColony Brain)

/-! ### Views -/

@[simp] theorem layout_disguise : (b.disguise c g brains).layout = b.layout := rfl

@[simp] theorem ant?_disguise (id : Nat) : (b.disguise c g brains).ant? id = b.ant? id := rfl

section Views

include hidden

theorem disguise_of_unmarked {cell : Cell} (unmarked : cell.markers = .both .empty) :
    cell.disguise c g = cell := by
  have blank : g .empty = .empty := MarkerSet.isEmpty_iff.1 (hidden.isEmpty .empty)
  have markers : (PerColony.both MarkerSet.empty).modify c g = .both .empty := by
    cases c <;> simp [PerColony.modify, PerColony.both, blank]
  rw [Cell.disguise, unmarked, markers, ← unmarked]

theorem cellAt_disguise (slot : Nat) :
    (b.disguise c g brains).cellAt slot = (b.cellAt slot).disguise c g := by
  simp only [cellAt, disguise, Array.getElem?_map]
  cases b.cells[slot]? with
  | none => exact (disguise_of_unmarked hidden rfl).symm
  | some cell => rfl

theorem owner_disguise (slot : Nat) :
    ((b.disguise c g brains).cellAt slot).owner = (b.cellAt slot).owner := by
  rw [cellAt_disguise hidden]
  rfl

theorem occupant?_disguise (slot : Nat) :
    (b.disguise c g brains).occupant? slot = b.occupant? slot := by
  rw [occupant?, cellAt_disguise hidden]
  rfl

theorem isFree_disguise (slot : Nat) : (b.disguise c g brains).isFree slot = b.isFree slot := by
  rw [isFree, cellAt_disguise hidden]
  rfl

theorem adjacentFoes_disguise (slot id : Nat) :
    (b.disguise c g brains).adjacentFoes slot id = b.adjacentFoes slot id := by
  simp only [adjacentFoes, hasFoeOf, ant?_disguise, layout_disguise, occupant?_disguise hidden]

/-- An ant senses the same when its own markers are asked for by their other names. -/
theorem holds_disguise (slot : Nat) (condition : Condition) :
    (b.disguise c g brains).holds d slot (condition.rename f) = b.holds d slot condition := by
  cases condition with
  | marker m =>
    simp only [Condition.rename, holds, cellAt_disguise hidden, Cell.disguise, PerColony.get_modify]
    split
    · rename_i own
      exact hidden.contains own.symm _ m
    · rename_i other
      rw [hidden.foreign (Ne.symm other), id_eq]
  | foeMarker =>
    simp only [Condition.rename, holds, cellAt_disguise hidden, Cell.disguise, PerColony.get_modify]
    split
    · rw [hidden.isEmpty]
    · rfl
  | _ =>
    simp only [Condition.rename, holds, occupant?_disguise hidden, cellAt_disguise hidden,
      Cell.disguise]

end Views

/-! ### Changes -/

theorem disguise_changeCell {h h' : Cell → Cell}
    (comm : ∀ cell, (h cell).disguise c g = h' (cell.disguise c g)) (slot : Nat) :
    (b.changeCell slot h).disguise c g brains = (b.disguise c g brains).changeCell slot h' := by
  simp only [changeCell, disguise, map_modify_of_comm comm]

theorem disguise_changeAnt (id : Nat) (h : Ant → Ant) :
    (b.changeAnt id h).disguise c g brains = (b.disguise c g brains).changeAnt id h := rfl

theorem disguise_changeLedger (h : Ledger → Ledger) :
    (b.changeLedger h).disguise c g brains = (b.disguise c g brains).changeLedger h := rfl

theorem disguise_relocate (id : Nat) (ant : Ant) (target : Nat) :
    (b.relocate id ant target).disguise c g brains =
      (b.disguise c g brains).relocate id ant target := by
  rw [relocate, disguise_changeAnt, disguise_changeCell, disguise_changeCell]
  · rfl
  · intro cell
    rfl
  · intro cell
    rfl

include hidden

theorem disguise_take (id : Nat) (ant : Ant) :
    (b.take id ant).disguise c g brains = (b.disguise c g brains).take id ant := by
  rw [take, take, owner_disguise hidden, disguise_changeAnt, disguise_changeLedger,
    disguise_changeCell]
  intro cell
  rfl

theorem disguise_put (id : Nat) (ant : Ant) :
    (b.put id ant).disguise c g brains = (b.disguise c g brains).put id ant := by
  rw [put, put, owner_disguise hidden, disguise_changeAnt, disguise_changeLedger,
    disguise_changeCell]
  intro cell
  rfl

theorem disguise_kill (id : Nat) :
    (b.kill id).disguise c g brains = (b.disguise c g brains).kill id := by
  cases present : b.ant? id with
  | none => rw [kill_of_absent present, kill_of_absent (b := b.disguise c g brains) present]
  | some ant =>
    rw [kill_eq present, kill_eq (b := b.disguise c g brains) present, owner_disguise hidden,
      disguise_changeLedger, disguise_changeCell, disguise_changeAnt]
    intro cell
    rfl

theorem disguise_judge (slot : Nat) :
    (b.judge slot).disguise c g brains = (b.disguise c g brains).judge slot := by
  have occupant : ((b.disguise c g brains).cellAt slot).occupant = (b.cellAt slot).occupant := by
    rw [cellAt_disguise hidden]
    rfl
  simp only [judge, occupant, adjacentFoes_disguise hidden]
  cases (b.cellAt slot).occupant with
  | none => rfl
  | some id =>
    dsimp only
    split
    · exact disguise_kill hidden b brains id
    · rfl

theorem disguise_judgeAround (slot : Nat) :
    (b.judgeAround slot).disguise c g brains = (b.disguise c g brains).judgeAround slot := by
  have each (slots : List Nat) (b : Battle) : (slots.foldl judge b).disguise c g brains =
      slots.foldl judge (b.disguise c g brains) := by
    induction slots generalizing b with
    | nil => rfl
    | cons slot slots ih => rw [List.foldl_cons, List.foldl_cons, ih, disguise_judge hidden]
  rw [judgeAround_eq_foldl, judgeAround_eq_foldl, each, layout_disguise]

end Disguise

/-! ### Turns -/

section Turn

variable {c : Colony} {g : MarkerSet → MarkerSet} {f : Marker → Marker} (b : Battle) (id : Nat)
  (brains : PerColony Brain) {ant : Ant}

/-- Markers are set and cleared under their other names. -/
theorem disguise_changeMarkers {h h' : MarkerSet → MarkerSet}
    (own : ant.colony = c → ∀ s, g (h s) = h' (g s)) (foreign : ant.colony ≠ c → h' = h) :
    (b.changeMarkers ant h).disguise c g brains = (b.disguise c g brains).changeMarkers ant h' := by
  apply disguise_changeCell
  intro cell
  have markers : (cell.markers.modify ant.colony h).modify c g =
      (cell.markers.modify c g).modify ant.colony h' := by
    by_cases mine : ant.colony = c
    · subst mine
      apply PerColony.ext_get
      intro d
      simp only [PerColony.get_modify]
      split
      · exact own rfl _
      · rfl
    · rw [foreign mine]
      apply PerColony.ext_get
      intro d
      simp only [PerColony.get_modify]
      grind
  simp only [Cell.disguise, markers]

variable (hidden : Disguised c g ant.colony f)

include hidden

/-- An instruction with its marker under the other name has the same effect and leads to the same
state. -/
theorem act_disguise (i : Instruction) :
    (b.disguise c g brains).act id ant (i.rename f) =
      ((b.act id ant i).1.disguise c g brains, (b.act id ant i).2) := by
  cases i with
  | sense gaze ifTrue ifFalse condition =>
    simp only [Instruction.rename, act, layout_disguise, holds_disguise hidden]
    split <;> rfl
  | mark marker next =>
    simp only [Instruction.rename, act, Prod.mk.injEq, and_true]
    symm
    apply disguise_changeMarkers
    · exact fun own s => hidden.insert own s marker
    · intro other
      rw [hidden.foreign other, id_eq]
  | unmark marker next =>
    simp only [Instruction.rename, act, Prod.mk.injEq, and_true]
    symm
    apply disguise_changeMarkers
    · exact fun own s => hidden.erase own s marker
    · intro other
      rw [hidden.foreign other, id_eq]
  | pickUp ifTaken ifNot =>
    have food : ((b.disguise c g brains).cellAt ant.slot).food = (b.cellAt ant.slot).food := by
      rw [cellAt_disguise hidden]
      rfl
    simp only [Instruction.rename, act, food]
    split
    · rfl
    · rw [disguise_take hidden]
  | drop next =>
    simp only [Instruction.rename, act]
    split
    · rw [disguise_put hidden]
    · rfl
  | turn rotation next => rfl
  | move ifMoved ifBlocked =>
    simp only [Instruction.rename, act, layout_disguise, isFree_disguise hidden]
    split
    · rw [disguise_judgeAround hidden, disguise_relocate]
    · rfl
  | flip odds ifZero ifOther => rfl

end Turn

/-- The turn of an ant whose brain has the other names for the markers. -/
theorem takeTurn_disguise {b : Battle} {c : Colony} {g : MarkerSet → MarkerSet}
    {brains : PerColony Brain} {id : Nat}
    (hidden : ∀ ant, b.ant? id = some ant → ∃ f, Disguised c g ant.colony f ∧
      brains.get ant.colony = (b.brains.get ant.colony).rename f) :
    (b.disguise c g brains).takeTurn id = (b.takeTurn id).disguise c g brains := by
  simp only [takeTurn, ant?_disguise]
  cases present : b.ant? id with
  | none => rfl
  | some ant =>
    obtain ⟨f, hidden, brain⟩ := hidden ant present
    have told : ((b.disguise c g brains).brains.get ant.colony).get? ant.state =
        ((b.brains.get ant.colony).get? ant.state).map (Instruction.rename f) := by
      rw [← Brain.get?_rename, ← brain]
      rfl
    simp only [told]
    split
    · rfl
    · split
      · rfl
      · cases (b.brains.get ant.colony).get? ant.state with
        | none => rfl
        | some i => simp only [Option.map_some, act_disguise b id brains hidden,
            disguise_changeAnt]

/-! ### A colony with other names for its markers -/

/-- The battle in which a colony has other names for its markers. -/
def rename (b : Battle) (c : Colony) (f : Equiv.Perm Marker) : Battle :=
  b.disguise c (·.rename f) (b.brains.modify c (·.rename f))

section Rename

variable (c : Colony) (f : Equiv.Perm Marker)

theorem takeTurn_rename (b : Battle) (id : Nat) :
    (b.rename c f).takeTurn id = (b.takeTurn id).rename c f := by
  have brains : (b.takeTurn id).brains = b.brains :=
    (lasting_of_deeds (deeds_takeTurn b id)).brains
  rw [rename, rename, brains]
  apply takeTurn_disguise
  intro ant _
  rw [PerColony.get_modify]
  by_cases own : c = ant.colony
  · subst own
    exact ⟨f, disguised_rename _ f, if_pos rfl⟩
  · -- the brain of the foe is the one it was
    refine ⟨_, disguised_of_foe (Ne.symm own) (MarkerSet.isEmpty_rename f), ?_⟩
    rw [if_neg own, Brain.rename_id]

theorem moment_rename (b : Battle) (n k : Nat) :
    (b.rename c f).moment n k = (b.moment n k).rename c f :=
  moment_comm (takeTurn_rename c f) (fun _ => rfl) (fun _ => rfl) n k b

end Rename

/-- No cell has a marker at the start. -/
theorem Begun.markers_eq {w : World} {b : Battle} (begun : Begun w b) (slot : Nat) :
    (b.cellAt slot).markers = .both .empty := by
  by_cases onMap : slot ∈ b.layout.slots.map Prod.snd
  · obtain ⟨front, t, back, split⟩ := begun.exists_site_of_mem onMap
    rw [begun.cellAt_of_site split]
    rfl
  · rw [begun.cellAt_of_notMem onMap]
    rfl

/-- Where there are no markers yet, all that other names change is the brain. -/
theorem start_rename {w : World} {brains : PerColony Brain} {seed : Nat} {b : Battle}
    (started : start w brains seed = .ok b) (c : Colony) (f : Equiv.Perm Marker) :
    start w (brains.modify c (·.rename f)) seed = .ok (b.rename c f) := by
  have begun := begun_of_start started
  have cells : b.cells.map (Cell.disguise c (·.rename f)) = b.cells := by
    conv_rhs => rw [← Array.map_id b.cells]
    apply Array.map_congr_left
    intro cell mem
    obtain ⟨slot, found⟩ := Array.getElem?_of_mem mem
    have markers := begun.markers_eq slot
    rw [cellAt, found, Option.getD_some] at markers
    exact disguise_of_unmarked (disguised_rename c f) markers
  obtain ⟨l, built, rfl⟩ := start_eq_ok_iff.1 started
  refine start_eq_ok_iff.2 ⟨l, built, ?_⟩
  rw [rename, disguise, cells]

/-! ### What the foe sees -/

/-- The battle as the foe of a colony sees it: of the colony's markers on a cell only whether there
are any. -/
def veil (b : Battle) (c : Colony) : Battle := b.disguise c MarkerSet.veil b.brains

theorem holds_veil (b : Battle) (c : Colony) (slot : Nat) (condition : Condition) :
    (b.veil c).holds c.foe slot condition = b.holds c.foe slot condition := by
  -- the condition names no marker that the veil could hide
  have hidden := disguised_of_foe c.foe_ne MarkerSet.isEmpty_veil
  have same := holds_disguise hidden b b.brains slot condition
  rwa [Condition.rename_id] at same

theorem takeTurn_veil {b : Battle} {c : Colony} {id : Nat}
    (foe : ∀ ant, b.ant? id = some ant → ant.colony ≠ c) :
    (b.veil c).takeTurn id = (b.takeTurn id).veil c := by
  have brains : (b.takeTurn id).brains = b.brains :=
    (lasting_of_deeds (deeds_takeTurn b id)).brains
  rw [veil, veil, brains]
  apply takeTurn_disguise
  intro ant present
  refine ⟨_, disguised_of_foe (foe ant present) MarkerSet.isEmpty_veil, ?_⟩
  rw [Brain.rename_id]

/-! ### All moments -/

/-- Two battles are the same but for the names of the markers of one colony. -/
structure Renamed (c : Colony) (f : Equiv.Perm Marker) (b b' : Battle) : Prop where
  ants : b'.ants = b.ants
  dice : b'.dice = b.dice
  ledger : b'.ledger = b.ledger
  layout : b'.layout = b.layout
  round : b'.round = b.round
  mustered : b'.mustered = b.mustered
  ground : ∀ slot, (b'.cellAt slot).isRock = (b.cellAt slot).isRock ∧
    (b'.cellAt slot).owner = (b.cellAt slot).owner
  occupant : ∀ slot, (b'.cellAt slot).occupant = (b.cellAt slot).occupant
  food : ∀ slot, (b'.cellAt slot).food = (b.cellAt slot).food
  /-- The other colony's markers have their names. -/
  foreign : ∀ slot, (b'.cellAt slot).markers.get c.foe = (b.cellAt slot).markers.get c.foe
  /-- The bit of each marker is now that of its other name. -/
  own : ∀ slot m, ((b'.cellAt slot).markers.get c).mask.getLsbD (f m) =
    ((b.cellAt slot).markers.get c).mask.getLsbD m

theorem renamed_rename (b : Battle) (c : Colony) (f : Equiv.Perm Marker) :
    Renamed c f b (b.rename c f) := by
  have cell (slot : Nat) :
      (b.rename c f).cellAt slot = (b.cellAt slot).disguise c (·.rename f) :=
    cellAt_disguise (disguised_rename c f) b _ slot
  refine ⟨rfl, rfl, rfl, rfl, rfl, rfl, ?_, ?_, ?_, ?_, ?_⟩
  · intro slot
    rw [cell]
    exact ⟨rfl, rfl⟩
  · intro slot
    rw [cell]
    rfl
  · intro slot
    rw [cell]
    rfl
  · intro slot
    rw [cell, Cell.disguise, PerColony.get_modify, if_neg c.foe_ne.symm]
  · intro slot m
    rw [cell, Cell.disguise, PerColony.get_modify, if_pos rfl]
    exact (disguised_rename c f).contains rfl _ m

/-- Let a colony have other names for its markers in all instructions of its brain. The battle
begins as it did, and after every round and between the turns of any two ants it is the same, but
that the markers of the colony have their other names. Of a colony's markers on a cell its foe sees
only whether there are any: where that is the same on all cells, and all else is the same too, the
ants of the foe sense the same and do the same. -/
theorem markers_are_private {w : World} {brains : PerColony Brain} {seed : Nat} {b : Battle}
    (started : start w brains seed = .ok b) (c : Colony) (f : Equiv.Perm Marker) :
    (∃ b', start w (brains.modify c (·.rename f)) seed = .ok b' ∧
      ∀ n k, Renamed c f (b.moment n k) (b'.moment n k)) ∧
    ∀ x y : Battle, x.veil c = y.veil c →
      (∀ slot condition, x.holds c.foe slot condition = y.holds c.foe slot condition) ∧
      ∀ id ant, x.ant? id = some ant → ant.colony = c.foe →
        (x.takeTurn id).veil c = (y.takeTurn id).veil c := by
  constructor
  · refine ⟨b.rename c f, start_rename started c f, fun n k => ?_⟩
    rw [moment_rename]
    exact renamed_rename _ c f
  · intro x y alike
    constructor
    · intro slot condition
      rw [← holds_veil, alike, holds_veil]
    · intro id ant present colony
      have present' : y.ant? id = some ant := by
        rw [← present]
        exact congrArg (·.ant? id) alike.symm
      have foe : ant.colony ≠ c := colony ▸ c.foe_ne
      rw [← takeTurn_veil, alike, takeTurn_veil]
      · intro other isOther
        rwa [Option.some.inj (isOther.symm.trans present')]
      · intro other isOther
        rwa [Option.some.inj (isOther.symm.trans present)]

/-- A brain that leaves the third marker on each cell and then steps ahead when it can. -/
def trailer : Brain where
  instructions := #[.mark 2 1, .move 0 1]
  size_pos := by decide
  successors_lt := by decide

/-- With the third and the fifth marker exchanged the red ants of the siege leave the fifth where
they left the third, and go the same ways. -/
theorem trail_renamed : ∃ b b', start siege ⟨trailer, idler⟩ 1 = .ok b ∧
    start siege ⟨trailer.rename (Equiv.swap 2 4), idler⟩ 1 = .ok b' ∧
    ((b.moment 1 0).cellAt 11).markers.red.contains 2 ∧
    ((b'.moment 1 0).cellAt 11).markers.red.contains 4 ∧
    (b.moment 2 0).living .black = 0 ∧ (b'.moment 2 0).ants = (b.moment 2 0).ants := by
  obtain ⟨b, started, marked, fallen⟩ : ∃ b, start siege ⟨trailer, idler⟩ 1 = .ok b ∧
      ((b.moment 1 0).cellAt 11).markers.red.contains 2 ∧ (b.moment 2 0).living .black = 0 := by
    refine ⟨_, rfl, ?_, ?_⟩ <;> decide +kernel
  obtain ⟨⟨b', started', renamed⟩, -⟩ := markers_are_private started .red (Equiv.swap 2 4)
  have bit := (renamed 1 0).own 11 2
  rw [Equiv.swap_apply_left] at bit
  exact ⟨b, b', started, started', marked, bit.trans marked, fallen, (renamed 2 0).ants⟩

end Battle

end Formicary
