/-
Module: Formicary.Proofs.Correspondence
Purpose: A battle on the slots of a map is the battle on the plane: it shows the same cells, ants and
  food after every round.
Main exports: Ant.walker, Battle.Shown, Battle.Shown.act, Battle.Shown.takeTurn,
  Battle.shown_of_start, Battle.slots_show_plane
-/
import Formicary.Proofs.Occupancy
import Formicary.Proofs.Plane
import Formicary.Proofs.Slots

namespace Formicary

/-- An ant as it stands on the plane. -/
def Ant.walker (f : Frame) (a : Ant) : Walker :=
  { colony := a.colony, hex := f.hexAt a.slot, state := a.state, resting := a.resting,
    facing := a.facing, laden := a.laden, alive := a.alive }

namespace Battle

/-- A battle and a battle on the plane are in the same state: each cell of the frame is that of its
slot, and each ant stands on the cell of its slot. -/
structure Shown (b : Battle) (p : Plane) : Prop where
  brains : p.brains = b.brains
  cells : ∀ h, b.layout.contains h → p.cellAt h = b.cellAt (b.layout.slot h)
  ants : p.ants = b.ants.map (Ant.walker b.layout.toFrame)
  dice : p.dice = b.dice
  round : p.round = b.round
  ledger : p.ledger = b.ledger

namespace Shown

variable {b : Battle} {p : Plane}

/-! ### Views -/

theorem ant? (shown : b.Shown p) (id : Nat) :
    p.ant? id = (b.ant? id).map (Ant.walker b.layout.toFrame) := by
  rw [Plane.ant?, shown.ants, Array.getElem?_map]
  rfl

theorem occupant? (shown : b.Shown p) {h : Hex} (within : b.layout.contains h) :
    p.occupant? h = (b.occupant? (b.layout.slot h)).map (Ant.walker b.layout.toFrame) := by
  rw [Plane.occupant?, shown.cells h within, Battle.occupant?]
  cases (b.cellAt (b.layout.slot h)).occupant with
  | none => rfl
  | some id => exact shown.ant? id

/-! ### Changes -/

theorem changeAnt (shown : b.Shown p) (id : Nat) {f : Ant → Ant} {g : Walker → Walker}
    (same : ∀ a, (f a).walker b.layout.toFrame = g (a.walker b.layout.toFrame)) :
    (b.changeAnt id f).Shown (p.changeAnt id g) where
  brains := shown.brains
  cells := shown.cells
  ants := by
    rw [Plane.changeAnt, shown.ants]
    exact (map_modify_of_comm same b.ants id).symm
  dice := shown.dice
  round := shown.round
  ledger := shown.ledger

theorem changeLedger (shown : b.Shown p) {f g : Ledger → Ledger} (same : f = g) :
    (b.changeLedger f).Shown (p.changeLedger g) where
  brains := shown.brains
  cells := shown.cells
  ants := shown.ants
  dice := shown.dice
  round := shown.round
  ledger := by
    rw [Plane.changeLedger, shown.ledger, same]
    rfl

theorem changeCell (shown : b.Shown p) (faithful : b.layout.Faithful) {slot : Nat}
    (onMap : slot ∈ b.layout.slots.map Prod.snd) (ground : (b.cellAt slot).isRock = false)
    (f : Cell → Cell) :
    (b.changeCell slot f).Shown (p.changeCell (b.layout.hexAt slot) f) := by
  obtain ⟨brains, ants, dice, round, ledger⟩ := p.changeCell_same (b.layout.hexAt slot) f
  have notBare : b.cellAt slot ≠ .rock := by
    intro bare
    rw [bare] at ground
    cases ground
  refine ⟨brains.trans shown.brains, ?_, ants.trans shown.ants, dice.trans shown.dice,
    round.trans shown.round, ledger.trans shown.ledger⟩
  intro h within
  have within : b.layout.contains h := within
  rw [Plane.cellAt_changeCell, layout_changeCell, cellAt_changeCell, shown.cells h within]
  by_cases same : b.layout.hexAt slot = h
  · have reached : slot = b.layout.slot h := by rw [← same, faithful.slot_hexAt slot onMap]
    rw [reached] at notBare
    have onPlane := p.isSome_of_cellAt_ne h (shown.cells h within ▸ notBare)
    rw [if_pos ⟨same, onPlane⟩, if_pos ⟨reached, lt_size_of_cellAt_ne notBare⟩]
  · have missed : slot ≠ b.layout.slot h := by
      rintro rfl
      exact same (faithful.hexAt_slot h within)
    rw [if_neg fun both => same both.1, if_neg fun both => missed both.1]

/-! ### The surround rule -/

theorem hasFoeOf (shown : b.Shown p) (c : Colony) {h : Hex} (within : b.layout.contains h) :
    p.hasFoeOf c h = b.hasFoeOf c (b.layout.slot h) := by
  rw [Plane.hasFoeOf, shown.occupant? within, Option.any_map]
  rfl

theorem adjacentFoes (shown : b.Shown p) (faithful : b.layout.Faithful) {slot : Nat}
    (onMap : slot ∈ b.layout.slots.map Prod.snd) (id : Nat) :
    p.adjacentFoes (b.layout.hexAt slot) id = b.adjacentFoes slot id := by
  rw [Plane.adjacentFoes, shown.ant? id, Battle.adjacentFoes]
  cases b.ant? id with
  | none => rfl
  | some ant =>
    simp only [Option.map_some, Hex.neighbors, List.countP_map]
    apply List.countP_congr
    intro d _
    rw [Function.comp_apply, shown.hasFoeOf _ (faithful.contains_neighbor onMap d),
      faithful.neighbor slot onMap d]
    rfl

theorem kill (shown : b.Shown p) (faithful : b.layout.Faithful) (sound : b.Sound) {id : Nat}
    {ant : Ant} (present : b.ant? id = some ant) (alive : ant.alive) :
    (b.kill id).Shown (p.kill id) := by
  obtain ⟨onMap, ground, -⟩ := sound.stands id ant present alive
  have present' : p.ant? id = some (ant.walker b.layout.toFrame) := by
    rw [shown.ant?, present]
    rfl
  have cell : p.cellAt (b.layout.hexAt ant.slot) = b.cellAt ant.slot := by
    rw [shown.cells _ (faithful.contains_hexAt onMap), faithful.slot_hexAt _ onMap]
  have dead := shown.changeAnt id (f := fun a => { a with alive := false, laden := false })
    (g := fun a => { a with alive := false, laden := false }) fun _ => rfl
  have vacated := dead.changeCell faithful onMap ground
    fun c => { c with occupant := none, food := c.food + (corpseFood + ant.laden.toNat) }
  simp only [Battle.kill, Plane.kill, present, present']
  refine vacated.changeLedger (funext fun l => ?_)
  rw [← cell]
  rfl

theorem judge (shown : b.Shown p) (faithful : b.layout.Faithful) (sound : b.Sound) {h : Hex}
    (within : b.layout.contains h) : (b.judge (b.layout.slot h)).Shown (p.judge h) := by
  rw [Plane.judge, shown.cells h within]
  cases named : (b.cellAt (b.layout.slot h)).occupant with
  | none =>
    rw [Battle.judge, named]
    exact shown
  | some id =>
    obtain ⟨ant, present, alive, onSlot⟩ := sound.named _ id named
    have onMap : b.layout.slot h ∈ b.layout.slots.map Prod.snd :=
      onSlot ▸ (sound.stands id ant present alive).1
    have foes : p.adjacentFoes h id = b.adjacentFoes (b.layout.slot h) id := by
      rw [← shown.adjacentFoes faithful onMap id, faithful.hexAt_slot h within]
    rw [judge_of_named named]
    dsimp only
    rw [foes]
    split
    · exact shown.kill faithful sound present alive
    · exact shown

theorem foldl_judge (shown : b.Shown p) (faithful : b.layout.Faithful) (sound : b.Sound)
    {hexes : List Hex} (within : ∀ h ∈ hexes, b.layout.contains h) :
    ((hexes.map b.layout.slot).foldl Battle.judge b).Shown (hexes.foldl Plane.judge p) := by
  induction hexes generalizing b p with
  | nil => exact shown
  | cons h hexes ih =>
    have layout := layout_judge b (b.layout.slot h)
    have first := shown.judge faithful sound (within h List.mem_cons_self)
    have others : ∀ h' ∈ hexes, (b.judge (b.layout.slot h)).layout.contains h' := by
      intro h' mem
      rw [layout]
      exact within h' (List.mem_cons_of_mem _ mem)
    have faithful' : (b.judge (b.layout.slot h)).layout.Faithful := by
      rw [layout]
      exact faithful
    have rest := ih first faithful' (sound.deeds (deeds_judge b _)) others
    rw [layout] at rest
    exact rest

theorem judgeAround (shown : b.Shown p) (faithful : b.layout.Faithful) (sound : b.Sound) {slot : Nat}
    (onMap : slot ∈ b.layout.slots.map Prod.snd) :
    (b.judgeAround slot).Shown (p.judgeAround (b.layout.hexAt slot)) := by
  have looked : judged b.layout slot =
      (b.layout.hexAt slot :: (b.layout.hexAt slot).neighbors).map b.layout.slot := by
    rw [judged, List.map_cons, faithful.slot_hexAt slot onMap, Hex.neighbors, List.map_map]
    congr 1
    apply List.map_congr_left
    intro d _
    exact faithful.neighbor slot onMap d
  rw [judgeAround_eq_foldl, Plane.judgeAround, looked]
  apply shown.foldl_judge faithful sound
  intro h mem
  rcases List.mem_cons.1 mem with rfl | mem
  · exact faithful.contains_hexAt onMap
  · obtain ⟨d, -, rfl⟩ := List.mem_map.1 mem
    exact faithful.contains_neighbor onMap d

/-! ### Senses -/

theorem holds (shown : b.Shown p) (c : Colony) {h : Hex} (within : b.layout.contains h)
    (condition : Condition) : p.holds c h condition = b.holds c (b.layout.slot h) condition := by
  have cell := shown.cells h within
  have occupant := shown.occupant? within
  cases condition with
  | friend => rw [Plane.holds, occupant, Option.any_map]; rfl
  | foe => rw [Plane.holds, occupant, Option.any_map]; rfl
  | friendWithFood => rw [Plane.holds, occupant, Option.any_map]; rfl
  | foeWithFood => rw [Plane.holds, occupant, Option.any_map]; rfl
  | food => rw [Plane.holds, cell]; rfl
  | rock => rw [Plane.holds, cell]; rfl
  | marker m => rw [Plane.holds, cell]; rfl
  | foeMarker => rw [Plane.holds, cell]; rfl
  | home => rw [Plane.holds, cell]; rfl
  | foeHome => rw [Plane.holds, cell]; rfl

end Shown

/-- An ant on the map looks at a cell of the frame, the same on the slots and on the plane. -/
theorem slot_sensedHex {l : Layout} (faithful : l.Faithful) {ant : Ant}
    (onMap : ant.slot ∈ l.slots.map Prod.snd) (gaze : Gaze) :
    l.contains (Plane.sensedHex (ant.walker l.toFrame) gaze) ∧
      l.slot (Plane.sensedHex (ant.walker l.toFrame) gaze) = sensedSlot l ant gaze := by
  have beside (d : Direction) := faithful.contains_neighbor onMap d
  have next (d : Direction) := (faithful.neighbor ant.slot onMap d).symm
  cases gaze with
  | here => exact ⟨faithful.contains_hexAt onMap, faithful.slot_hexAt _ onMap⟩
  | ahead => exact ⟨beside ant.facing, next ant.facing⟩
  | leftAhead => exact ⟨beside ant.facing.left, next ant.facing.left⟩
  | rightAhead => exact ⟨beside ant.facing.right, next ant.facing.right⟩

namespace Shown

variable {b : Battle} {p : Plane} (shown : b.Shown p) (faithful : b.layout.Faithful)
  (sound : b.Sound) {id : Nat} {ant : Ant} (present : b.ant? id = some ant) (alive : ant.alive)

include shown faithful sound present alive

/-! ### Deeds -/

/-- An ant sees the cell on which it stands. -/
theorem cellAt_walker : p.cellAt (ant.walker b.layout.toFrame).hex = b.cellAt ant.slot := by
  have onMap := (sound.stands id ant present alive).1
  have cell := shown.cells _ (faithful.contains_hexAt onMap)
  rw [faithful.slot_hexAt _ onMap] at cell
  exact cell

/-- A change of the cell on which an ant stands. -/
theorem changeOwnCell (f : Cell → Cell) :
    (b.changeCell ant.slot f).Shown (p.changeCell (ant.walker b.layout.toFrame).hex f) := by
  obtain ⟨onMap, ground, -⟩ := sound.stands id ant present alive
  exact shown.changeCell faithful onMap ground f

theorem changeMarkers (f : MarkerSet → MarkerSet) :
    (b.changeMarkers ant f).Shown (p.changeMarkers (ant.walker b.layout.toFrame) f) :=
  shown.changeOwnCell faithful sound present alive _

theorem take : (b.take id ant).Shown (p.take id (ant.walker b.layout.toFrame)) := by
  have cell := shown.cellAt_walker faithful sound present alive
  have dug := shown.changeOwnCell faithful sound present alive
    fun cell => { cell with food := cell.food - 1 }
  rw [Plane.take, cell]
  apply (dug.changeLedger rfl).changeAnt
  intro a
  rfl

theorem put : (b.put id ant).Shown (p.put id (ant.walker b.layout.toFrame)) := by
  have cell := shown.cellAt_walker faithful sound present alive
  have heaped := shown.changeOwnCell faithful sound present alive
    fun cell => { cell with food := cell.food + 1 }
  rw [Plane.put, cell]
  apply (heaped.changeLedger rfl).changeAnt
  intro a
  rfl

/-- An ant sees whether the cell ahead is free. -/
theorem isFree_ahead (d : Direction) :
    p.isFree ((ant.walker b.layout.toFrame).hex.neighbor d) =
      b.isFree (b.layout.neighbor ant.slot d) := by
  have onMap := (sound.stands id ant present alive).1
  have cell := shown.cells _ (faithful.contains_neighbor onMap d)
  rw [← faithful.neighbor ant.slot onMap d] at cell
  rw [Plane.isFree, Battle.isFree]
  exact congrArg (fun cell : Cell => !cell.isRock && cell.occupant.isNone) cell

theorem relocate {d : Direction} (free : b.isFree (b.layout.neighbor ant.slot d)) :
    (b.relocate id ant (b.layout.neighbor ant.slot d)).Shown
      (p.relocate id (ant.walker b.layout.toFrame)
        ((ant.walker b.layout.toFrame).hex.neighbor d)) := by
  obtain ⟨ground, -⟩ := isFree_iff.1 free
  have onMap := (sound.stands id ant present alive).1
  have targetOnMap : b.layout.neighbor ant.slot d ∈ b.layout.slots.map Prod.snd :=
    sound.onMap ground
  have hex : b.layout.hexAt (b.layout.neighbor ant.slot d) =
      (ant.walker b.layout.toFrame).hex.neighbor d := faithful.hexAt_neighbor onMap d
  have left := shown.changeOwnCell faithful sound present alive
    fun cell => { cell with occupant := none }
  have stillGround : ((b.changeCell ant.slot fun cell => { cell with occupant := none }).cellAt
      (b.layout.neighbor ant.slot d)).isRock = false := by
    rw [cellAt_changeCell]
    split
    · exact ground
    · exact ground
  have entered := left.changeCell faithful targetOnMap stillGround
    fun cell => { cell with occupant := some id }
  rw [Plane.relocate, ← hex]
  apply entered.changeAnt
  intro a
  rfl

/-- An instruction has the same effect and leads to the same state. -/
theorem act (i : Instruction) :
    (b.act id ant i).1.Shown (p.act id (ant.walker b.layout.toFrame) i).1 ∧
      (p.act id (ant.walker b.layout.toFrame) i).2 = (b.act id ant i).2 := by
  have onMap := (sound.stands id ant present alive).1
  cases i with
  | sense gaze ifTrue ifFalse condition =>
    obtain ⟨within, slot⟩ := slot_sensedHex faithful onMap gaze
    have same := shown.holds ant.colony within condition
    rw [slot] at same
    have same : p.holds (ant.walker b.layout.toFrame).colony
        (Plane.sensedHex (ant.walker b.layout.toFrame) gaze) condition =
      b.holds ant.colony (sensedSlot b.layout ant gaze) condition := same
    simp only [Plane.act, Battle.act, same]
    split
    · exact ⟨shown, rfl⟩
    · exact ⟨shown, rfl⟩
  | mark marker next => exact ⟨shown.changeMarkers faithful sound present alive _, rfl⟩
  | unmark marker next => exact ⟨shown.changeMarkers faithful sound present alive _, rfl⟩
  | pickUp ifTaken ifNot =>
    have cell := shown.cellAt_walker faithful sound present alive
    have laden : (ant.walker b.layout.toFrame).laden = ant.laden := rfl
    simp only [Plane.act, Battle.act, cell, laden]
    split
    · exact ⟨shown, rfl⟩
    · exact ⟨shown.take faithful sound present alive, rfl⟩
  | drop next =>
    have laden : (ant.walker b.layout.toFrame).laden = ant.laden := rfl
    simp only [Plane.act, Battle.act, laden]
    split
    · exact ⟨shown.put faithful sound present alive, trivial⟩
    · exact ⟨shown, trivial⟩
  | turn rotation next =>
    refine ⟨?_, rfl⟩
    apply shown.changeAnt
    intro a
    rfl
  | move ifMoved ifBlocked =>
    have facing : (ant.walker b.layout.toFrame).facing = ant.facing := rfl
    have same := shown.isFree_ahead faithful sound present alive ant.facing
    simp only [Plane.act, Battle.act, facing, same]
    by_cases free : b.isFree (b.layout.neighbor ant.slot ant.facing)
    · have moved := shown.relocate faithful sound present alive free
      have sound' := sound.relocate present alive free
      obtain ⟨ground, -⟩ := isFree_iff.1 free
      have judged := moved.judgeAround faithful sound' (sound.onMap ground)
      have hex : b.layout.hexAt (b.layout.neighbor ant.slot ant.facing) =
        (ant.walker b.layout.toFrame).hex.neighbor ant.facing := faithful.hexAt_neighbor onMap _
      rw [(lasting_relocate b id ant _).layout, hex] at judged
      simp only [if_pos free]
      exact ⟨judged, trivial⟩
    · simp only [if_neg free]
      exact ⟨shown, trivial⟩
  | flip odds ifZero ifOther =>
    simp only [Plane.act, Battle.act, shown.dice]
    generalize b.dice.roll odds = roll
    exact ⟨{ shown with dice := rfl }, trivial⟩

omit present alive

theorem takeTurn (id : Nat) : (b.takeTurn id).Shown (p.takeTurn id) := by
  rw [Battle.takeTurn, Plane.takeTurn, shown.ant? id]
  cases present : b.ant? id with
  | none => exact shown
  | some ant =>
    have walks : (ant.walker b.layout.toFrame).alive = ant.alive := rfl
    have rests : (ant.walker b.layout.toFrame).resting = ant.resting := rfl
    have told : (p.brains.get (ant.walker b.layout.toFrame).colony).get?
        (ant.walker b.layout.toFrame).state = (b.brains.get ant.colony).get? ant.state := by
      rw [shown.brains]
      rfl
    simp only [Option.map_some, walks, rests, told]
    cases alive : ant.alive with
    | false =>
      simp only [Bool.not_false, if_true]
      exact shown
    | true =>
      simp only [Bool.not_true, Bool.false_eq_true, if_false]
      by_cases tired : 0 < ant.resting
      · simp only [if_pos tired]
        apply shown.changeAnt
        intro a
        rfl
      · simp only [if_neg tired]
        cases (b.brains.get ant.colony).get? ant.state with
        | none => exact shown
        | some i =>
          obtain ⟨acted, next⟩ := shown.act faithful sound present alive i
          dsimp only
          rw [next]
          apply acted.changeAnt
          intro a
          rfl

/-! ### Rounds -/

theorem foldl_takeTurn (ids : List Nat) :
    (ids.foldl Battle.takeTurn b).Shown (ids.foldl Plane.takeTurn p) := by
  induction ids generalizing b p with
  | nil => exact shown
  | cons id ids ih =>
    have deeds := deeds_takeTurn b id
    apply ih (shown.takeTurn faithful sound id)
    · rw [(lasting_of_deeds deeds).layout]
      exact faithful
    · exact sound.deeds deeds

theorem playRound : b.playRound.Shown p.playRound := by
  have size : p.ants.size = b.ants.size := by rw [shown.ants, Array.size_map]
  have turns := shown.foldl_takeTurn faithful sound (List.range b.ants.size)
  rw [Plane.playRound, size]
  exact { turns with round := congrArg (· + 1) turns.round }

theorem playRounds (n : Nat) : (playRounds n b).Shown (Plane.playRounds n p) := by
  induction n generalizing b p with
  | zero => exact shown
  | succ n ih =>
    have deeds : Relation.ReflTransGen Deed b b.playRound :=
      (deeds_foldl_takeTurn _ b).tail (.quiet .pass)
    apply ih (shown.playRound faithful sound)
    · rw [(lasting_of_deeds deeds).layout]
      exact faithful
    · exact sound.deeds deeds

end Shown

/-! ### The start -/

/-- Settling a site on the slots shows as settling it on the plane. -/
theorem shown_settle {f : Frame} (hexAt_slot : ∀ h, f.contains h → f.hexAt (f.slot h) = h)
    {sites : List Site} (within : ∀ s ∈ sites, f.contains (Hex.ofPlace s.place))
    {cells : Array Cell} {ants : Array Ant} {plane : Finmap fun _ : Hex => Cell}
    {walkers : Array Walker} (size : cells.size = f.size)
    (sameCells : ∀ h, f.contains h → (plane.lookup h).getD .rock = cells[f.slot h]?.getD .rock)
    (sameAnts : walkers = ants.map (Ant.walker f)) :
    let slots := (sites.map fun s => (s.terrain, f.slot (Hex.ofPlace s.place))).foldl settle
      (cells, ants)
    let hexes := sites.foldl Plane.settle (plane, walkers)
    (∀ h, f.contains h → (hexes.1.lookup h).getD .rock = slots.1[f.slot h]?.getD .rock) ∧
      hexes.2 = slots.2.map (Ant.walker f) := by
  induction sites generalizing cells ants plane walkers with
  | nil => exact ⟨sameCells, sameAnts⟩
  | cons s sites ih =>
    have here := within s List.mem_cons_self
    have others : ∀ s' ∈ sites, f.contains (Hex.ofPlace s'.place) :=
      fun s' mem => within s' (List.mem_cons_of_mem _ mem)
    -- one cell more is the same on both boards
    have insert (cell : Cell) (h : Hex) (within : f.contains h) :
        ((plane.insert (Hex.ofPlace s.place) cell).lookup h).getD .rock =
          (cells.setIfInBounds (f.slot (Hex.ofPlace s.place)) cell)[f.slot h]?.getD .rock := by
      by_cases same : h = Hex.ofPlace s.place
      · have onBoard : f.slot (Hex.ofPlace s.place) < cells.size := size ▸ Frame.slot_lt_size here
        rw [same, Finmap.lookup_insert, Array.getElem?_setIfInBounds_self_of_lt onBoard]
      · have apart : f.slot (Hex.ofPlace s.place) ≠ f.slot h := by
          intro slots
          apply same
          rw [← hexAt_slot h within, ← slots, hexAt_slot _ here]
        rw [Finmap.lookup_insert_of_ne _ same, Array.getElem?_setIfInBounds_ne apart]
        exact sameCells h within
    have count : walkers.size = ants.size := by rw [sameAnts, Array.size_map]
    simp only [List.map_cons, List.foldl_cons, settle, Plane.settle]
    cases s.terrain.owner? with
    | none => exact ih others (by rw [Array.size_setIfInBounds, size]) (insert _) sameAnts
    | some c =>
      dsimp only
      rw [count]
      apply ih others (by rw [Array.size_setIfInBounds, size]) (insert _)
      rw [sameAnts, Array.map_push]
      congr 1
      exact congrArg (Walker.fresh c) (hexAt_slot _ here).symm

theorem shown_of_start {w : World} {brains : PerColony Brain} {seed : Nat} {b : Battle}
    (bounded : w.Bounded) (started : start w brains seed = .ok b) :
    b.Shown (Plane.start w brains seed) := by
  have begun := begun_of_start started
  obtain ⟨sameBrains, dice⟩ := brains_of_start started
  have faithful := begun.covers.faithful bounded
  have within : ∀ s ∈ w.sites, b.layout.contains (Hex.ofPlace s.place) :=
    fun s mem => (begun.covers.hasInside (List.mem_map_of_mem mem)).contains
  have bare : ∀ h, b.layout.contains h →
      ((∅ : Finmap fun _ : Hex => Cell).lookup h).getD .rock =
        (Array.replicate b.layout.size Cell.rock)[b.layout.slot h]?.getD .rock := by
    intro h within
    rw [Array.getElem?_replicate, if_pos (Frame.slot_lt_size within)]
    rfl
  obtain ⟨cells, ants⟩ := shown_settle faithful.hexAt_slot within (by simp) bare
    (Array.map_empty (f := Ant.walker b.layout.toFrame)).symm
  constructor
  · exact sameBrains.symm
  · intro h onFrame
    rw [cellAt, begun.cells]
    exact cells h onFrame
  · have hatch : b.ants =
        ((laid w b.layout).foldl settle (Array.replicate b.layout.size .rock, #[])).2 := by
      rw [ants_foldl_settle, Array.empty_append]
      exact begun.ants
    rw [hatch]
    exact ants
  · exact dice.symm
  · exact begun.round.symm
  · exact begun.ledger.symm

/-! ### All rounds -/

/-- After every round the battle and the battle on the plane from the same map, brains and seed have
the same cell at each place of the map, the same ants by number, each on the cell of its slot, the
same account of the food and the same dice. -/
theorem slots_show_plane {w : World} {brains : PerColony Brain} {seed : Nat} {b : Battle}
    (bounded : w.Bounded) (started : start w brains seed = .ok b) (n : Nat) :
    (∀ place ∈ w.places, (playRounds n b).cell? place =
      some ((Plane.playRounds n (Plane.start w brains seed)).cellAt (Hex.ofPlace place))) ∧
    (Plane.playRounds n (Plane.start w brains seed)).ants =
      (playRounds n b).ants.map (Ant.walker b.layout.toFrame) ∧
    (Plane.playRounds n (Plane.start w brains seed)).ledger = (playRounds n b).ledger ∧
    (Plane.playRounds n (Plane.start w brains seed)).dice = (playRounds n b).dice ∧
    (Plane.playRounds n (Plane.start w brains seed)).round = (playRounds n b).round := by
  have begun := begun_of_start started
  have shown := (shown_of_start bounded started).playRounds (begun.covers.faithful bounded)
    begun.sound n
  have layout : (playRounds n b).layout = b.layout := (lasting_moment b n 0).layout
  refine ⟨?_, ?_, shown.ledger, shown.dice, shown.round⟩
  · intro place isPlace
    have within := (begun.covers.hasInside isPlace).contains
    rw [← layout] at within
    rw [cell?, layout, begun.covers.find?_eq isPlace, shown.cells _ within, layout]
    rfl
  · rw [shown.ants, layout]

/-- The besieged ant dies on the plane as well. -/
theorem siege_falls_on_plane : siege.Bounded ∧ ∃ b, start siege ⟨marcher, idler⟩ 1 = .ok b ∧
    (Plane.playRounds 1 (Plane.start siege ⟨marcher, idler⟩ 1)).ants.countP
      (fun a => a.alive && a.colony == .black) = 0 := by
  have bounded : siege.Bounded := by decide
  obtain ⟨b, started, -, -, fallen⟩ := siege_falls
  obtain ⟨-, ants, -⟩ := slots_show_plane bounded started 1
  refine ⟨bounded, b, started, ?_⟩
  rw [ants, Array.countP_map]
  exact fallen

end Battle

end Formicary
