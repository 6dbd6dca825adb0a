/-
Module: Formicary.Proofs.Locality
Purpose: A turn changes the ant whose turn it is and what it does to its cell; a step changes two cells
  and what the deaths around it bring about; nothing else changes.
Main exports: Battle.withAnt, Battle.Marks, Battle.Lifts, Battle.Steps, Battle.Perish, Battle.Effect,
  Battle.effect_takeTurn, Battle.turns_are_local
-/
import Formicary.Proofs.Deaths
import Formicary.Proofs.Rescan

namespace Formicary

namespace Battle

/-! ### One ant -/

/-- The same battle with another record of ant `id`. -/
def withAnt (b : Battle) (id : Nat) (ant : Ant) : Battle :=
  { b with ants := b.ants.setIfInBounds id ant }

theorem changeAnt_eq_withAnt {b : Battle} {id : Nat} {ant : Ant} (present : b.ant? id = some ant)
    (f : Ant → Ant) : b.changeAnt id f = b.withAnt id (f ant) := by
  have ants : b.ants.modify id f = b.ants.setIfInBounds id (f ant) := by
    apply Array.ext_getElem?
    intro j
    rw [Array.getElem?_modify, Array.getElem?_setIfInBounds]
    split
    · rename_i same
      have number : id < b.ants.size := (Array.getElem?_eq_some_iff.1 present).1
      have found : b.ants[j]? = some ant := same ▸ present
      rw [if_pos number, found, Option.map_some]
    · rfl
  rw [changeAnt, withAnt, ants]

theorem changeAnt_changeAnt (b : Battle) (id : Nat) (f g : Ant → Ant) :
    (b.changeAnt id f).changeAnt id g = b.changeAnt id (g ∘ f) := by
  have ants : (b.ants.modify id f).modify id g = b.ants.modify id (g ∘ f) := by
    apply Array.ext_getElem?
    intro j
    simp only [Array.getElem?_modify]
    split
    · rw [Option.map_map]
    · rfl
  simp only [changeAnt, ants]

/-! ### One cell -/

/-- A marker of a colony on the cell of a slot is set now, or missing; no cell differs in anything
else. -/
structure Marks (b b' : Battle) (slot : Nat) (c : Colony) (marker : Marker) (isSet : Bool) :
    Prop where
  cell : b'.cellAt slot = { b.cellAt slot with markers := (b'.cellAt slot).markers }
  bit : ((b'.cellAt slot).markers.get c).contains marker = isSet
  others : ∀ d m, (d, m) ≠ (c, marker) →
    ((b'.cellAt slot).markers.get d).contains m = ((b.cellAt slot).markers.get d).contains m
  elsewhere : ∀ s, slot ≠ s → b'.cellAt s = b.cellAt s

theorem marks_changeMarkers {b : Battle} {ant : Ant} {marker : Marker} {isSet : Bool}
    {f : MarkerSet → MarkerSet} (onBoard : ant.slot < b.cells.size)
    (change : ∀ s m, (f s).contains m = if m = marker then isSet else s.contains m) :
    Marks b (b.changeMarkers ant f) ant.slot ant.colony marker isSet := by
  have cell : (b.changeMarkers ant f).cellAt ant.slot =
      { b.cellAt ant.slot with
        markers := (b.cellAt ant.slot).markers.modify ant.colony f } := by
    rw [changeMarkers, cellAt_changeCell, if_pos ⟨rfl, onBoard⟩]
  constructor
  · rw [cell]
  · rw [cell, PerColony.get_modify, if_pos rfl, change, if_pos rfl]
  · intro d m other
    rw [cell, PerColony.get_modify]
    split
    · rename_i mine
      have differ : m ≠ marker := by
        rintro rfl
        exact other (by rw [mine])
      rw [change, if_neg differ]
    · rfl
  · intro s differ
    rw [changeMarkers, cellAt_changeCell, if_neg fun h => differ h.1]

/-- A piece of food lies on the cell of an ant in the one battle, and the ant carries it in the other;
no cell and no entry of the account differs in anything else. -/
structure Lifts (lain held : Battle) (ant : Ant) : Prop where
  cell : lain.cellAt ant.slot =
    { held.cellAt ant.slot with food := (held.cellAt ant.slot).food + 1 }
  elsewhere : ∀ s, ant.slot ≠ s → lain.cellAt s = held.cellAt s
  lying : ∀ o, lain.ledger.lying o =
    held.ledger.lying o + if (lain.cellAt ant.slot).owner = o then 1 else 0
  carried : ∀ c, held.ledger.carried.get c =
    lain.ledger.carried.get c + if ant.colony = c then 1 else 0

section Food

variable {b : Battle} {id : Nat} {ant : Ant} (sound : b.Sound) (balanced : b.Balanced)
  (present : b.ant? id = some ant) (alive : ant.alive)

include sound balanced present alive

theorem lifts_take (food : 0 < (b.cellAt ant.slot).food) : Lifts b (b.take id ant) ant := by
  have onBoard := sound.onBoard present alive
  have cell (s : Nat) : (b.take id ant).cellAt s =
      if ant.slot = s ∧ s < b.cells.size then
        { b.cellAt s with food := (b.cellAt s).food - 1 } else b.cellAt s := by
    rw [take, cellAt_changeAnt, cellAt_changeLedger, cellAt_changeCell]
  constructor
  · rw [cell, if_pos ⟨rfl, onBoard⟩, Nat.sub_add_cancel food]
  · intro s differ
    rw [cell, if_neg fun h => differ h.1]
  · intro o
    have listed : (b.cellAt ant.slot).food ≤ b.ledger.lying (b.cellAt ant.slot).owner := by
      rw [balanced.lying]
      exact food_le_foodOn b ant.slot
    rw [take, ledger_changeAnt, ledger_changeLedger, ledger_changeCell, Ledger.lying_load,
      Ledger.lying_take]
    split
    · rename_i mine
      rw [mine] at listed
      omega
    · rfl
  · intro c
    rw [take, ledger_changeAnt, ledger_changeLedger, ledger_changeCell, Ledger.carried_load,
      Ledger.carried_take]

theorem lifts_put (laden : ant.laden) : Lifts (b.put id ant) b ant := by
  have onBoard := sound.onBoard present alive
  have cell (s : Nat) : (b.put id ant).cellAt s =
      if ant.slot = s ∧ s < b.cells.size then
        { b.cellAt s with food := (b.cellAt s).food + 1 } else b.cellAt s := by
    rw [put, cellAt_changeAnt, cellAt_changeLedger, cellAt_changeCell]
  constructor
  · rw [cell, if_pos ⟨rfl, onBoard⟩]
  · intro s differ
    rw [cell, if_neg fun h => differ h.1]
  · intro o
    have owner : ((b.put id ant).cellAt ant.slot).owner = (b.cellAt ant.slot).owner := by
      rw [cell]
      split <;> rfl
    rw [owner, put, ledger_changeAnt, ledger_changeLedger, ledger_changeCell, Ledger.lying_put,
      Ledger.lying_unload]
  · intro c
    have listed := balanced.laden_le present alive
    rw [put, ledger_changeAnt, ledger_changeLedger, ledger_changeCell, Ledger.carried_put,
      Ledger.carried_unload]
    split
    · rename_i mine
      rw [laden, mine] at listed
      exact (Nat.sub_add_cancel listed).symm
    · rfl

end Food

/-! ### A step and its dead -/

/-- An ant has gone from its cell to that of a slot; no cell differs in anything else. -/
structure Steps (b b' : Battle) (id : Nat) (ant : Ant) (target : Nat) : Prop where
  left : b'.cellAt ant.slot = { b.cellAt ant.slot with occupant := none }
  entered : b'.cellAt target = { b.cellAt target with occupant := some id }
  elsewhere : ∀ s, ant.slot ≠ s → target ≠ s → b'.cellAt s = b.cellAt s

theorem steps_relocate {b : Battle} {id target : Nat} {ant : Ant} (sound : b.Sound)
    (present : b.ant? id = some ant) (alive : ant.alive) (free : b.isFree target) :
    Steps b (b.relocate id ant target) id ant target := by
  have apart : target ≠ ant.slot := by
    rintro rfl
    have vacant := (isFree_iff.1 free).2
    rw [(sound.stands id ant present alive).2.2] at vacant
    cases vacant
  have cell (s : Nat) : (b.relocate id ant target).cellAt s =
      { b.cellAt s with
        occupant :=
          if target = s then some id else if ant.slot = s then none
          else (b.cellAt s).occupant } := by
    rw [← sound.occupant_relocate present alive free, cellAt_relocate]
  constructor
  · rw [cell, if_neg apart, if_pos rfl]
  · rw [cell, if_pos rfl]
  · intro s notLeft notEntered
    rw [cell, if_neg notEntered, if_neg notLeft]

/-- The food that the death of an ant brings to the cells of an owner. -/
def legacy (b : Battle) (owner : Option Colony) (id : Nat) : Nat :=
  ((b.ant? id).map fun a =>
    if (b.cellAt a.slot).owner = owner then 3 + a.laden.toNat else 0).getD 0

/-- Some living ants on the cells of some slots have died, each once, and each has left its remains on
its cell; nothing else differs. -/
structure Perish (b b' : Battle) (dead slots : List Nat) : Prop where
  rest : b' = { b with cells := b'.cells, ants := b'.ants, ledger := b'.ledger }
  once : dead.Nodup
  fell : ∀ j ∈ dead, ∃ a, b.ant? j = some a ∧ a.alive ∧ a.slot ∈ slots ∧
    b'.ant? j = some a.fall ∧ b'.cellAt a.slot = { b.cellAt a.slot with
      occupant := none, food := (b.cellAt a.slot).food + (3 + a.laden.toNat) }
  spared : ∀ j, j ∉ dead → b'.ant? j = b.ant? j
  elsewhere : ∀ s, (∀ j ∈ dead, (b.cellAt s).occupant ≠ some j) → b'.cellAt s = b.cellAt s
  lying : ∀ o, b'.ledger.lying o = b.ledger.lying o + (dead.map (b.legacy o)).sum
  carried : ∀ c, b'.ledger.carried.get c +
    dead.countP (fun j => (b.ant? j).any fun a => a.alive && a.colony == c && a.laden) =
      b.ledger.carried.get c

section Perish

variable {b : Battle} {ids : List Nat}

theorem rest_kill (b : Battle) (id : Nat) :
    b.kill id = { b with
      cells := (b.kill id).cells, ants := (b.kill id).ants, ledger := (b.kill id).ledger } := by
  cases present : b.ant? id with
  | none => rw [kill_of_absent present]
  | some ant => rw [kill_eq present]; rfl

theorem rest_foldl_kill (ids : List Nat) (b : Battle) :
    ids.foldl kill b = { b with
      cells := (ids.foldl kill b).cells, ants := (ids.foldl kill b).ants
      ledger := (ids.foldl kill b).ledger } := by
  induction ids generalizing b with
  | nil => rfl
  | cons id ids ih =>
    let last := ids.foldl kill (b.kill id)
    calc last
        = { b.kill id with cells := last.cells, ants := last.ants, ledger := last.ledger } :=
          ih (b.kill id)
      _ = { b with cells := last.cells, ants := last.ants, ledger := last.ledger } :=
          congrArg (fun b' : Battle =>
            { b' with cells := last.cells, ants := last.ants, ledger := last.ledger })
            (rest_kill b id)

/-- Deaths on other cells leave a cell alone. -/
theorem cellAt_foldl_kill_of_ne {s : Nat}
    (away : ∀ j ∈ ids, ∀ a, b.ant? j = some a → a.slot ≠ s) :
    (ids.foldl kill b).cellAt s = b.cellAt s := by
  induction ids generalizing b with
  | nil => rfl
  | cons id ids ih =>
    have first : (b.kill id).cellAt s = b.cellAt s := by
      cases present : b.ant? id with
      | none => rw [kill_of_absent present]
      | some ant =>
        rw [cellAt_kill present, if_neg fun h => away id List.mem_cons_self ant present h.1]
    rw [List.foldl_cons, ih, first]
    intro j mem a present
    rw [ant?_kill_eq] at present
    split at present
    · obtain ⟨former, formerly, rfl⟩ := Option.map_eq_some_iff.1 present
      exact away j (List.mem_cons_of_mem id mem) former formerly
    · exact away j (List.mem_cons_of_mem id mem) a present

/-- The cell on which one of several ants dies. -/
theorem cellAt_foldl_kill_self (sound : b.Sound) (nodup : ids.Nodup)
    (living : ∀ j ∈ ids, j ∈ b.livingIds) {id : Nat} {ant : Ant} (dies : id ∈ ids)
    (present : b.ant? id = some ant) (alive : ant.alive) :
    (ids.foldl kill b).cellAt ant.slot = { b.cellAt ant.slot with
      occupant := none
      food := (b.cellAt ant.slot).food + (corpseFood + ant.laden.toNat) } := by
  -- the order of the deaths does not matter: let this one be the first
  rw [foldl_kill_perm (List.perm_cons_erase dies), List.foldl_cons, cellAt_foldl_kill_of_ne,
    cellAt_kill present, if_pos ⟨rfl, sound.onBoard present alive⟩]
  intro j mem a present' same
  obtain ⟨differ, mem⟩ := nodup.mem_erase_iff.1 mem
  obtain ⟨other, formerly, alive'⟩ := living j mem
  rw [ant?_kill_of_ne (Ne.symm differ), formerly] at present'
  cases present'
  exact differ (sound.slot_inj formerly present alive' alive same)

theorem lying_foldl_kill (nodup : ids.Nodup) (b : Battle) (o : Option Colony) :
    (ids.foldl kill b).ledger.lying o = b.ledger.lying o + (ids.map (b.legacy o)).sum := by
  induction ids generalizing b with
  | nil => rfl
  | cons id ids ih =>
    obtain ⟨notMem, nodup⟩ := List.nodup_cons.1 nodup
    have first : (b.kill id).ledger.lying o = b.ledger.lying o + b.legacy o id := by
      cases present : b.ant? id with
      | none => simp [kill_of_absent present, legacy, present]
      | some ant => simp [kill_eq_bury present, legacy, present, corpseFood]
    have others : ids.map ((b.kill id).legacy o) = ids.map (b.legacy o) := by
      refine List.map_congr_left fun j mem => ?_
      have differ : id ≠ j := fun same => notMem (same ▸ mem)
      simp only [legacy, ant?_kill_of_ne differ, owner_kill]
    rw [List.foldl_cons, ih nodup, first, others, List.map_cons, List.sum_cons, Nat.add_assoc]

/-- The rule kills ants on the cells that it looks at and does nothing else. -/
theorem perish_foldl_judge (sound : b.Sound) (balanced : b.Balanced) (slots : List Nat) :
    Perish b (slots.foldl judge b) (b.victims slots) slots := by
  have nodup := nodup_victims sound slots
  have living : ∀ j ∈ b.victims slots, j ∈ b.livingIds := by
    intro j dies
    obtain ⟨ant, present, alive, -⟩ := exists_of_mem_victims sound dies
    exact ⟨ant, present, alive⟩
  have after := (stores_of_deeds sound balanced (deeds_foldl_judge slots b)).1
  rw [foldl_judge_eq_kill_victims] at after ⊢
  refine ⟨rest_foldl_kill _ b, nodup, fun j dies => ?fell, fun j spared => ?spared,
    fun s nobody => ?elsewhere, lying_foldl_kill nodup b, fun c => ?carried⟩
  case fell =>
    obtain ⟨ant, present, alive, looked⟩ := exists_of_mem_victims sound dies
    refine ⟨ant, present, alive, looked, ?_, ?_⟩
    · rw [ant?_foldl_kill, if_pos dies, present, Option.map_some]
    · exact cellAt_foldl_kill_self sound nodup living dies present alive
  case spared => rw [ant?_foldl_kill, if_neg spared]
  case elsewhere =>
    apply cellAt_foldl_kill_of_ne
    intro j dies a present same
    obtain ⟨ant, present', alive⟩ := living j dies
    cases present.symm.trans present'
    exact nobody j dies (same ▸ (sound.stands j a present alive).2.2)
  case carried =>
    rw [after.carried, balanced.carried]
    exact countP_foldl_kill (fun a => by simp [Ant.fall]) nodup b

end Perish

/-! ### Turns -/

/-- What becomes of battle `b` when ant `id`, which is `ant`, carries out an instruction. The parts of
the battle that are not named stay as they are. -/
def Effect (b b' : Battle) (id : Nat) (ant : Ant) : Instruction → Prop
  | .sense gaze ifTrue ifFalse condition =>
    b' = b.withAnt id { ant with
      state :=
        if b.holds ant.colony (sensedSlot b.layout ant gaze) condition then ifTrue else ifFalse }
  | .mark marker next =>
    b' = { b with cells := b'.cells }.withAnt id { ant with state := next } ∧
      Marks b b' ant.slot ant.colony marker true
  | .unmark marker next =>
    b' = { b with cells := b'.cells }.withAnt id { ant with state := next } ∧
      Marks b b' ant.slot ant.colony marker false
  | .pickUp ifTaken ifNot =>
    if ant.laden || (b.cellAt ant.slot).food == 0 then
      b' = b.withAnt id { ant with state := ifNot }
    else
      b' = { b with cells := b'.cells, ledger := b'.ledger }.withAnt id
        { ant with laden := true, state := ifTaken } ∧
      Lifts b b' ant
  | .drop next =>
    if ant.laden then
      b' = { b with cells := b'.cells, ledger := b'.ledger }.withAnt id
        { ant with laden := false, state := next } ∧
      Lifts b' b ant
    else b' = b.withAnt id { ant with state := next }
  | .turn rotation next =>
    b' = b.withAnt id { ant with facing := rotation.apply ant.facing, state := next }
  | .move ifMoved ifBlocked =>
    let target := b.layout.neighbor ant.slot ant.facing
    if b.isFree target then
      ∃ moved thinned : Battle,
        moved = { b with cells := moved.cells }.withAnt id
          { ant with slot := target, resting := 14 } ∧
        Steps b moved id ant target ∧
        Perish moved thinned (b.fallen id) (judged b.layout target) ∧
        b' = thinned.changeAnt id fun a => { a with state := ifMoved }
    else b' = b.withAnt id { ant with state := ifBlocked }
  | .flip odds ifZero ifOther =>
    b' = { b with dice := b.dice.advance }.withAnt id { ant with
      state := if (b.dice.roll odds).1 = 0 then ifZero else ifOther }

section Effect

variable {b : Battle} {id : Nat} {ant : Ant} (sound : b.Sound) (balanced : b.Balanced)
  (present : b.ant? id = some ant) (alive : ant.alive) (rested : ant.resting = 0)

include sound balanced present alive rested

theorem effect_of_step {ifMoved ifBlocked : State}
    (told : (b.brains.get ant.colony).get? ant.state = some (.move ifMoved ifBlocked))
    (free : b.isFree (b.layout.neighbor ant.slot ant.facing)) :
    Effect b (b.takeTurn id) id ant (.move ifMoved ifBlocked) := by
  have steps : b.stride? id = some (b.layout.neighbor ant.slot ant.facing) :=
    stride?_eq_some_iff.2 ⟨ant, ifMoved, ifBlocked, present, alive, rested, told, rfl, free⟩
  obtain ⟨_, _, _, present', -, -, told', -, turn⟩ := takeTurn_of_step steps
  cases present.symm.trans present'
  cases told.symm.trans told'
  have moved := (stores_of_deeds sound balanced (.single (.move present alive free))).1
  have perish := perish_foldl_judge (sound.relocate present alive free) moved
    (judged b.layout (b.layout.neighbor ant.slot ant.facing))
  rw [foldl_judge_eq_kill_victims, ← fallen_of_step present steps] at perish
  simp only [Effect, if_pos free]
  refine ⟨_, _, ?_, steps_relocate sound present alive free, perish, turn⟩
  rw [relocate]
  exact changeAnt_eq_withAnt (by exact present) _

theorem effect_takeTurn {i : Instruction}
    (told : (b.brains.get ant.colony).get? ant.state = some i) :
    Effect b (b.takeTurn id) id ant i := by
  have onBoard := sound.onBoard present alive
  rw [takeTurn_of_told present alive rested told]
  -- what the instruction does to the board is known; the state that comes after it touches no cell
  cases i with
  | sense gaze ifTrue ifFalse condition =>
    simp only [act, Effect]
    split
    · exact changeAnt_eq_withAnt present _
    · exact changeAnt_eq_withAnt present _
  | mark marker next =>
    refine ⟨changeAnt_eq_withAnt (b := b.changeMarkers ant _) present _, ?_⟩
    exact { marks_changeMarkers onBoard fun s m => by grind [MarkerSet.contains_insert] with }
  | unmark marker next =>
    refine ⟨changeAnt_eq_withAnt (b := b.changeMarkers ant _) present _, ?_⟩
    exact { marks_changeMarkers onBoard fun s m => by grind [MarkerSet.contains_erase] with }
  | pickUp ifTaken ifNot =>
    simp only [act, Effect]
    split
    · exact changeAnt_eq_withAnt present _
    · rename_i able
      simp only [Bool.or_eq_true, beq_iff_eq, not_or] at able
      have food : 0 < (b.cellAt ant.slot).food := Nat.pos_of_ne_zero able.2
      refine ⟨?_, { lifts_take sound balanced present alive food with }⟩
      simp only [take, changeAnt_changeAnt]
      exact changeAnt_eq_withAnt (by exact present) _
  | drop next =>
    simp only [act, Effect]
    split
    · rename_i laden
      refine ⟨?_, { lifts_put sound balanced present alive laden with }⟩
      simp only [put, changeAnt_changeAnt]
      exact changeAnt_eq_withAnt (by exact present) _
    · exact changeAnt_eq_withAnt present _
  | turn rotation next =>
    simp only [act, changeAnt_changeAnt]
    exact changeAnt_eq_withAnt present _
  | move ifMoved ifBlocked =>
    rw [← takeTurn_of_told present alive rested told]
    cases free : b.isFree (b.layout.neighbor ant.slot ant.facing) with
    | true => exact effect_of_step sound balanced present alive rested told free
    | false =>
      rw [takeTurn_of_told present alive rested told]
      simp only [act, Effect, free]
      exact changeAnt_eq_withAnt present _
  | flip odds ifZero ifOther => exact changeAnt_eq_withAnt (by exact present) _

end Effect

/-- Every turn is local. That of a dead ant changes nothing and that of a tired ant its rest alone.
No turn changes the map, the brains, the seed, the round or the colony of an ant. The turn of a rested
ant has the effect of its instruction and no other. -/
theorem turns_are_local {w : World} {brains : PerColony Brain} {seed : Nat} {b s : Battle}
    (started : start w brains seed = .ok b) {n k : Nat} (reached : s = b.moment n k) {id : Nat}
    {ant : Ant} (present : s.ant? id = some ant) :
    (ant.alive = false → s.takeTurn id = s) ∧
    (ant.alive → 0 < ant.resting →
      s.takeTurn id = s.withAnt id { ant with resting := ant.resting - 1 }) ∧
    (ant.alive → ant.resting = 0 → ∃ i,
      (s.brains.get ant.colony).get? ant.state = some i ∧ Effect s (s.takeTurn id) id ant i) ∧
    Lasting s (s.takeTurn id) ∧ SameGround s (s.takeTurn id) ∧
    (s.takeTurn id).round = s.round := by
  subst reached
  have sound := sound_moment started n k
  have balanced := ((begun_of_start started).stores n k).1
  have turn := deeds_takeTurn (b.moment n k) id
  refine ⟨fun dead => ?dead, fun alive tired => ?tired, fun alive rested => ?rested,
    lasting_of_deeds turn, sameGround_of_deeds turn, round_takeTurn _ id⟩
  case dead => simp [takeTurn, present, dead]
  case tired =>
    have rests : (b.moment n k).takeTurn id =
        (b.moment n k).changeAnt id fun a => { a with resting := a.resting - 1 } := by
      simp [takeTurn, present, alive, tired]
    rw [rests]
    exact changeAnt_eq_withAnt present _
  case rested =>
    obtain ⟨i, told⟩ := sound.exists_told present
    exact ⟨i, told, effect_takeTurn sound balanced present alive rested told⟩

/-- The step that ends the siege changes what an accepted step and one death change. -/
theorem marcher_ends_siege : ∃ b s ant, start siege ⟨marcher, idler⟩ 1 = .ok b ∧
    s = b.moment 0 5 ∧ s.ant? 5 = some ant ∧ s.fallen 5 = [3] ∧
    Effect s (s.takeTurn 5) 5 ant (.move 0 0) := by
  obtain ⟨b, s, ant, started, reached, present, alive, rested, told, fallen⟩ :
      ∃ b s ant, start siege ⟨marcher, idler⟩ 1 = .ok b ∧ s = b.moment 0 5 ∧
        s.ant? 5 = some ant ∧ ant.alive ∧ ant.resting = 0 ∧
        (s.brains.get ant.colony).get? ant.state = some (.move 0 0) ∧ s.fallen 5 = [3] := by
    refine ⟨_, _, _, rfl, rfl, rfl, ?_, ?_, ?_, ?_⟩ <;> decide +kernel
  obtain ⟨-, -, obeys, -⟩ := turns_are_local started reached present
  obtain ⟨i, told', effect⟩ := obeys alive rested
  cases told.symm.trans told'
  exact ⟨b, s, ant, started, reached, present, fallen, effect⟩

end Battle

end Formicary
