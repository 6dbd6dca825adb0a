/-
Module: Formicary.Proofs.Safety
Purpose: Every operation of a battle has a result: no position is out of range, no difference below
  zero, no sum too large for its word, and no die without faces.
Main exports: Battle.Ready, Battle.Deed.ready, Battle.Ready.act, Battle.Ready.takeTurn,
  Battle.Ready.playRounds, Battle.rounds_without_hazard
-/
import Formicary.Proofs.Guarded
import Formicary.Proofs.Odds
import Formicary.Proofs.Slots
import Formicary.Proofs.Stores

namespace Formicary

/-- A loop meets no hazard if none of its steps does, as long as the steps keep what they need. -/
theorem foldlM_eq_ok {σ α ε : Type} {P : σ → Prop} {f : σ → α → Except ε σ} {g : σ → α → σ}
    {xs : List α} (step : ∀ s, P s → ∀ x ∈ xs, f s x = .ok (g s x) ∧ P (g s x)) {s : σ}
    (first : P s) : xs.foldlM f s = .ok (xs.foldl g s) := by
  induction xs generalizing s with
  | nil => rfl
  | cons x xs ih =>
    obtain ⟨done, next⟩ := step s first x List.mem_cons_self
    rw [List.foldlM_cons]
    apply Guarded.bind_eq_ok done
    apply ih _ next
    intro s ready y mem
    exact step s ready y (List.mem_cons_of_mem x mem)

/-- The directions by their numbers. -/
theorem range_six : List.range 6 = Direction.all.map Fin.val := by decide

namespace Battle

open Relation (ReflTransGen)
open Guarded (bind_eq_ok elem_eq sub_eq add_eq cellOf_eq antOf_eq changeCell_eq changeAnt_eq
  neighbor_eq putOn_eq takeFrom_eq load_eq unload_eq sensedSlot_eq turned_eq roll_eq)

/-- What keeps the operations of all turns within their bounds. -/
structure Ready (b : Battle) : Prop where
  sound : b.Sound
  faithful : b.layout.Faithful
  size : b.cells.size = b.layout.size
  balanced : b.Balanced
  scarce : b.worth < UInt32.size
  fair : ∀ c, (b.brains.get c).Fair

theorem Deed.ready {b b' : Battle} (ready : b.Ready) (deed : Deed b b') : b'.Ready := by
  have lasting := deed.lasting
  have trade := deed.trade ready.sound
  constructor
  · exact deed.sound ready.sound
  · rw [lasting.layout]
    exact ready.faithful
  · rw [deed.sameGround.size, lasting.layout]
    exact ready.size
  · exact trade.balanced ready.balanced
  · rw [trade.worth_eq ready.balanced]
    exact ready.scarce
  · rw [lasting.brains]
    exact ready.fair

theorem Ready.deeds {b b' : Battle} (ready : b.Ready) (deeds : ReflTransGen Deed b b') : b'.Ready :=
  deeds_preserve (fun _ _ ready deed => deed.ready ready) ready deeds

namespace Ready

variable {b : Battle} (ready : b.Ready)

include ready

/-! ### Bounds -/

theorem lt_size {slot : Nat} (onMap : slot ∈ b.layout.slots.map Prod.snd) :
    slot < b.cells.size := by
  rw [ready.size, ← ready.faithful.slot_hexAt slot onMap]
  exact Frame.slot_lt_size (ready.faithful.contains_hexAt onMap)

theorem neighbor_lt_size {slot : Nat} (onMap : slot ∈ b.layout.slots.map Prod.snd)
    (d : Direction) : b.layout.neighbor slot d < b.cells.size := by
  rw [ready.size]
  exact ready.faithful.neighbor_lt_size onMap d

/-- No cell has more food than the account says of its owner. -/
theorem food_le (slot : Nat) :
    (b.cellAt slot).food ≤ b.ledger.lying (b.cellAt slot).owner := by
  rw [ready.balanced.lying]
  exact food_le_foodOn b slot

section Ant

variable {id : Nat} {ant : Ant} (present : b.ant? id = some ant) (alive : ant.alive)

include present alive

/-- Beside a living ant's remains there is room for what lies with any owner and for what its colony
carries. -/
theorem room (owner : Option Colony) :
    b.ledger.lying owner + b.ledger.carried.get ant.colony + corpseFood < UInt32.size := by
  have one : 0 < b.living ant.colony := by
    apply Array.countP_pos_iff.2
    exact ⟨ant, Array.mem_of_getElem? present, by simp [alive]⟩
  have worth := ready.scarce
  rw [Battle.worth, Ledger.total_eq] at worth
  simp only [corpseFood] at worth ⊢
  rcases owner with _ | _ | _ <;> cases colony : ant.colony <;> rw [colony] at one <;> omega

end Ant

/-! ### The surround rule -/

theorem hasFoeOf (c : Colony) {slot : Nat} (onBoard : slot < b.cells.size) :
    Guarded.hasFoeOf b c slot = .ok (b.hasFoeOf c slot) := by
  apply bind_eq_ok (cellOf_eq onBoard)
  rw [Battle.hasFoeOf, occupant?]
  cases named : (b.cellAt slot).occupant with
  | none => rfl
  | some id =>
    obtain ⟨ant, present, -⟩ := ready.sound.named slot id named
    apply bind_eq_ok (antOf_eq present)
    rw [Option.bind_some, present]
    rfl

theorem adjacentFoes {slot id : Nat} {ant : Ant} (present : b.ant? id = some ant)
    (onMap : slot ∈ b.layout.slots.map Prod.snd) :
    Guarded.adjacentFoes b slot id = .ok (b.adjacentFoes slot id) := by
  apply bind_eq_ok (antOf_eq present)
  have each : List.Forall₂
      (fun d foe =>
        (Guarded.neighbor b.layout.toFrame slot d >>= Guarded.hasFoeOf b ant.colony) = .ok foe)
      (List.range 6)
      (Direction.all.map fun d => b.hasFoeOf ant.colony (b.layout.neighbor slot d)) := by
    rw [range_six, List.forall₂_map_left_iff, List.forall₂_map_right_iff, List.forall₂_same]
    intro d _
    apply bind_eq_ok (neighbor_eq b.layout.toFrame slot d)
    exact ready.hasFoeOf _ (ready.neighbor_lt_size onMap d)
  apply bind_eq_ok (mapM_eq_ok_iff.2 each)
  rw [Battle.adjacentFoes, present, List.count_eq_countP, List.countP_map]
  simp only [Function.comp_def, beq_true]
  rfl

theorem kill {id : Nat} {ant : Ant} (present : b.ant? id = some ant) (alive : ant.alive) :
    Guarded.kill b id = .ok (b.kill id) := by
  have onBoard := ready.sound.onBoard present alive
  have room := ready.room present alive (b.cellAt ant.slot).owner
  have carried := ready.balanced.laden_le present alive
  have lies := ready.food_le ant.slot
  have words : UInt32.size < UInt64.size := by decide
  apply bind_eq_ok (antOf_eq present)
  apply bind_eq_ok (changeAnt_eq present _)
  apply bind_eq_ok (cellOf_eq onBoard)
  apply bind_eq_ok (add_eq (by omega))
  apply bind_eq_ok (add_eq (by omega))
  refine bind_eq_ok (changeCell_eq ?_ _) ?_
  · exact onBoard
  -- the account is still that of before the death, of which `room` speaks
  apply bind_eq_ok (putOn_eq (l := b.ledger) (by omega))
  have heaped : ((b.changeAnt id fun a => { a with alive := false, laden := false }).changeCell
        ant.slot fun c => { c with
          occupant := none, food := (b.cellAt ant.slot).food + (corpseFood + ant.laden.toNat) }) =
      (b.changeAnt id fun a => { a with alive := false, laden := false }).changeCell ant.slot
        fun c => { c with occupant := none, food := c.food + (corpseFood + ant.laden.toNat) } :=
    changeCell_congr rfl
  rw [kill_eq present, heaped]
  cases laden : ant.laden with
  | false => rfl
  | true =>
    rw [laden] at carried
    rw [if_pos rfl]
    apply bind_eq_ok (unload_eq (by rwa [Ledger.carried_put]))
    rfl

theorem judge {slot : Nat} (onBoard : slot < b.cells.size) :
    Guarded.judge b slot = .ok (b.judge slot) := by
  apply bind_eq_ok (cellOf_eq onBoard)
  rw [Battle.judge]
  cases named : (b.cellAt slot).occupant with
  | none => rfl
  | some id =>
    obtain ⟨ant, present, alive, rfl⟩ := ready.sound.named slot id named
    have onMap := (ready.sound.stands id ant present alive).1
    apply bind_eq_ok (ready.adjacentFoes present onMap)
    dsimp only
    split
    · exact ready.kill present alive
    · rfl

theorem judgeAround {slot : Nat} (onMap : slot ∈ b.layout.slots.map Prod.snd) :
    Guarded.judgeAround b slot = .ok (b.judgeAround slot) := by
  apply bind_eq_ok (ready.judge (ready.lt_size onMap))
  rw [range_six, List.foldlM_map]
  apply foldlM_eq_ok (P := fun b => b.Ready ∧ slot ∈ b.layout.slots.map Prod.snd)
  · rintro b ⟨ready, onMap⟩ d -
    refine ⟨?_, ready.deeds (deeds_judge b _), ?_⟩
    · apply bind_eq_ok (neighbor_eq b.layout.toFrame slot d)
      exact ready.judge (ready.neighbor_lt_size onMap d)
    · rwa [layout_judge]
  · refine ⟨ready.deeds (deeds_judge b slot), ?_⟩
    rwa [layout_judge]

/-! ### Turns -/

theorem holds (c : Colony) {slot : Nat} (onBoard : slot < b.cells.size) (condition : Condition) :
    Guarded.holds b c slot condition = .ok (b.holds c slot condition) := by
  apply bind_eq_ok (cellOf_eq onBoard)
  have occupant : (b.cellAt slot).occupant.mapM (Guarded.antOf b) = .ok (b.occupant? slot) := by
    rw [occupant?]
    cases named : (b.cellAt slot).occupant with
    | none => rfl
    | some id =>
      obtain ⟨ant, present, -⟩ := ready.sound.named slot id named
      rw [Option.bind_some, present]
      exact bind_eq_ok (antOf_eq present) rfl
  apply bind_eq_ok occupant
  cases condition <;> rfl

theorem sensedSlot_lt_size {ant : Ant} (onMap : ant.slot ∈ b.layout.slots.map Prod.snd)
    (gaze : Gaze) : sensedSlot b.layout ant gaze < b.cells.size := by
  cases gaze with
  | here => exact ready.lt_size onMap
  | ahead => exact ready.neighbor_lt_size onMap ant.facing
  | leftAhead => exact ready.neighbor_lt_size onMap ant.facing.left
  | rightAhead => exact ready.neighbor_lt_size onMap ant.facing.right

section Ant

variable {id : Nat} {ant : Ant} (present : b.ant? id = some ant) (alive : ant.alive)

include present alive

theorem take (food : 0 < (b.cellAt ant.slot).food) :
    Guarded.take b id ant = .ok (b.take id ant) := by
  have onBoard := ready.sound.onBoard present alive
  have room := ready.room present alive none
  have lies := ready.food_le ant.slot
  have words : UInt32.size < UInt64.size := by decide
  apply bind_eq_ok (cellOf_eq onBoard)
  apply bind_eq_ok (sub_eq food)
  apply bind_eq_ok (changeCell_eq onBoard _)
  apply bind_eq_ok (takeFrom_eq (l := b.ledger) (by omega))
  apply bind_eq_ok (load_eq (by rw [Ledger.carried_take]; omega))
  have dug : (b.changeCell ant.slot fun cell => { cell with
        food := (b.cellAt ant.slot).food - 1 }) =
      b.changeCell ant.slot fun cell => { cell with food := cell.food - 1 } := changeCell_congr rfl
  rw [dug]
  apply changeAnt_eq
  exact present

theorem put (laden : ant.laden) : Guarded.put b id ant = .ok (b.put id ant) := by
  have onBoard := ready.sound.onBoard present alive
  have room := ready.room present alive (b.cellAt ant.slot).owner
  have carried := ready.balanced.laden_le present alive
  have lies := ready.food_le ant.slot
  have words : UInt32.size < UInt64.size := by decide
  rw [laden, Bool.toNat_true] at carried
  simp only [corpseFood] at room
  apply bind_eq_ok (cellOf_eq onBoard)
  apply bind_eq_ok (add_eq (by omega))
  apply bind_eq_ok (changeCell_eq onBoard _)
  apply bind_eq_ok (unload_eq (l := b.ledger) carried)
  apply bind_eq_ok (putOn_eq (by rw [Ledger.lying_unload]; omega))
  have heaped : (b.changeCell ant.slot fun cell => { cell with
        food := (b.cellAt ant.slot).food + 1 }) =
      b.changeCell ant.slot fun cell => { cell with food := cell.food + 1 } := changeCell_congr rfl
  rw [heaped]
  apply changeAnt_eq
  exact present

theorem relocate {target : Nat} (onBoard : target < b.cells.size) :
    Guarded.relocate b id ant target = .ok (b.relocate id ant target) := by
  apply bind_eq_ok (changeCell_eq (ready.sound.onBoard present alive) _)
  refine bind_eq_ok (changeCell_eq ?_ _) ?_
  · rwa [size_cells_changeCell]
  · apply changeAnt_eq
    exact present

/-- Every instruction has its effect, if it is no flip of a die without faces. -/
theorem act {i : Instruction} (fair : i.Fair) : Guarded.act b id i = .ok (b.act id ant i) := by
  have onMap := (ready.sound.stands id ant present alive).1
  have onBoard := ready.sound.onBoard present alive
  apply bind_eq_ok (antOf_eq present)
  cases i with
  | sense gaze ifTrue ifFalse condition =>
    apply bind_eq_ok (sensedSlot_eq b.layout ant gaze)
    apply bind_eq_ok (ready.holds _ (ready.sensedSlot_lt_size onMap gaze) condition)
    simp only [Battle.act]
    split
    · rfl
    · rfl
  | mark marker next => exact bind_eq_ok (changeCell_eq onBoard _) rfl
  | unmark marker next => exact bind_eq_ok (changeCell_eq onBoard _) rfl
  | pickUp ifTaken ifNot =>
    apply bind_eq_ok (cellOf_eq onBoard)
    simp only [Battle.act]
    split
    · rfl
    · rename_i able
      simp only [Bool.or_eq_true, beq_iff_eq, not_or] at able
      exact bind_eq_ok (ready.take present alive (Nat.pos_of_ne_zero able.2)) rfl
  | drop next =>
    simp only [Battle.act]
    split
    · rename_i laden
      exact bind_eq_ok (ready.put present alive laden) rfl
    · rfl
  | turn rotation next =>
    apply bind_eq_ok (turned_eq ant.facing rotation)
    exact bind_eq_ok (changeAnt_eq present _) rfl
  | move ifMoved ifBlocked =>
    have ahead := ready.neighbor_lt_size onMap ant.facing
    have barred (cell : Cell) :
        (cell.isRock || cell.occupant.isSome) = !(!cell.isRock && cell.occupant.isNone) := by simp
    apply bind_eq_ok (neighbor_eq b.layout.toFrame ant.slot ant.facing)
    apply bind_eq_ok (cellOf_eq ahead)
    rw [Battle.act, barred, ← isFree]
    cases free : b.isFree (b.layout.neighbor ant.slot ant.facing) with
    | true =>
      -- the rule is applied in the middle of the turn: what it needs must hold there already
      have entered := Deed.ready ready (.move present alive free)
      have ground := (isFree_iff.1 free).1
      apply bind_eq_ok (ready.relocate present alive ahead)
      exact bind_eq_ok (entered.judgeAround (ready.sound.onMap ground)) rfl
    | false => rfl
  | flip odds ifZero ifOther => exact bind_eq_ok (roll_eq fair b.dice) rfl

end Ant

theorem takeTurn {id : Nat} (lt : id < b.ants.size) :
    Guarded.takeTurn b id = .ok (b.takeTurn id) := by
  obtain ⟨ant, present⟩ : ∃ ant, b.ant? id = some ant := ⟨_, Array.getElem?_eq_getElem lt⟩
  apply bind_eq_ok (antOf_eq present)
  rw [Battle.takeTurn, present]
  dsimp only
  split
  · rfl
  · rename_i living
    have alive : ant.alive := by simpa using living
    split
    · rename_i tired
      apply bind_eq_ok (sub_eq tired)
      apply (changeAnt_eq present _).trans
      exact congrArg Except.ok (changeAnt_congr present rfl)
    · obtain ⟨i, told⟩ := ready.sound.exists_told present
      have fair := ready.fair ant.colony i (Array.mem_of_getElem? told)
      have lasting := lasting_of_deeds (deeds_act present alive i)
      obtain ⟨ant', present'⟩ : ∃ ant', (b.act id ant i).1.ant? id = some ant' :=
        ⟨_, Array.getElem?_eq_getElem (lasting.size ▸ lt)⟩
      apply bind_eq_ok (elem_eq told _)
      apply bind_eq_ok (ready.act present alive fair)
      rw [told]
      exact changeAnt_eq present' _

/-! ### Rounds -/

theorem playRound (early : b.round + 1 < UInt64.size) :
    Guarded.playRound b = .ok b.playRound := by
  have turns : (List.range b.ants.size).foldlM Guarded.takeTurn b =
      .ok ((List.range b.ants.size).foldl Battle.takeTurn b) := by
    apply foldlM_eq_ok (P := fun b' => b'.Ready ∧ b'.ants.size = b.ants.size)
    · rintro b' ⟨ready, size⟩ id mem
      have turn := deeds_takeTurn b' id
      refine ⟨?_, ready.deeds turn, (lasting_of_deeds turn).size.trans size⟩
      exact ready.takeTurn (size ▸ List.mem_range.1 mem)
    · exact ⟨ready, rfl⟩
  have round := round_foldl_takeTurn (List.range b.ants.size) b
  apply bind_eq_ok turns
  rw [round]
  apply bind_eq_ok (add_eq early)
  rw [Battle.playRound, round]
  rfl

theorem playRounds {n : Nat} (early : b.round + n < UInt64.size) :
    Guarded.playRounds n b = .ok (playRounds n b) := by
  induction n generalizing b with
  | zero => rfl
  | succ n ih =>
    apply bind_eq_ok (ready.playRound (by omega))
    have next : b.playRound.Ready := ready.deeds (deeds_playRounds 1 b)
    apply ih next
    rw [round_playRound]
    omega

end Ready

/-! ### All rounds -/

section Start

variable {w : World} {brains : PerColony Brain} {seed : Nat} {b : Battle}

theorem ready_of_start (bounded : w.Bounded)
    (scarce : w.totalFood + 3 * (w.hillCount .red + w.hillCount .black) < 2 ^ 32)
    (fair : ∀ c, (brains.get c).Fair) (started : start w brains seed = .ok b) : b.Ready := by
  have begun := begun_of_start started
  constructor
  · exact begun.sound
  · exact begun.covers.faithful bounded
  · rw [begun.cells, size_foldl_settle, Array.size_replicate]
  · exact begun.balanced
  · rw [begun.worth_eq]
    exact scarce
  · rw [(brains_of_start started).1]
    exact fair

end Start

/-- On a map with places in bounds, and with food and ants that words of 32 bits can tell, no round
of brains that were read meets a hazard: every position is in range, every difference and every sum
has its word, and every die has a face. -/
theorem rounds_without_hazard {w : World} {redText blackText : String} {red black : Brain}
    {seed : Nat} {b : Battle} (bounded : w.Bounded)
    (scarce : w.totalFood + 3 * (w.hillCount .red + w.hillCount .black) < 2 ^ 32)
    (redRead : Brain.read redText = .ok red) (blackRead : Brain.read blackText = .ok black)
    (started : start w ⟨red, black⟩ seed = .ok b) {n : Nat} (few : n < 2 ^ 64) :
    Guarded.playRounds n b = .ok (playRounds n b) := by
  have fair (c : Colony) : ((⟨red, black⟩ : PerColony Brain).get c).Fair := by
    cases c with
    | red => exact Brain.fair_of_read redRead
    | black => exact Brain.fair_of_read blackRead
  apply (ready_of_start bounded scarce fair started).playRounds
  rw [(begun_of_start started).round, Nat.zero_add]
  exact few

/-- The battle in which the besieged ant dies meets no hazard. -/
theorem siege_without_hazard : ∃ b, start siege ⟨marcher, idler⟩ 1 = .ok b ∧
    Brain.read "move 0 0" = .ok marcher ∧ Brain.read "turn left 0" = .ok idler ∧
    (playRounds 1 b).living .black = 0 ∧ Guarded.playRounds 1 b = .ok (playRounds 1 b) := by
  obtain ⟨b, started, -, -, fallen⟩ := siege_falls
  have redRead : Brain.read "move 0 0" = .ok marcher := rfl
  have blackRead : Brain.read "turn left 0" = .ok idler := rfl
  refine ⟨b, started, redRead, blackRead, fallen, ?_⟩
  exact rounds_without_hazard (by decide) (by decide) redRead blackRead started (by decide)

-- a brain that no text stands for may well roll a die without faces
example : (start siege ⟨⟨#[.flip 0 0 0], by decide, by decide⟩, idler⟩ 1).toOption.map
    (Guarded.playRounds 1) = some (.error .noOdds) := rfl

end Battle

end Formicary
