/-
Module: Formicary.Proofs.Deaths
Purpose: Who dies in which turn; nobody dies twice, and the dead stay as they are.
Main exports: Ant.fall, Battle.victims, Battle.fallen, Battle.TurnKills, Battle.OwnTurn,
  Battle.ownTurn_takeTurn, Battle.deaths, Battle.death_is_final
-/
import Formicary.Proofs.Encirclement
import Formicary.Proofs.Stores

namespace Formicary

/-- An ant after its death. -/
def Ant.fall (a : Ant) : Ant := { a with alive := false, laden := false }

@[simp] theorem Ant.fall_fall (a : Ant) : a.fall.fall = a.fall := rfl

namespace Battle

open Relation (ReflTransGen)

/-! ### The surround rule as a list of deaths -/

/-- The ant that the rule kills when it looks at the cell of a slot. -/
def victim? (b : Battle) (slot : Nat) : Option Nat :=
  (b.cellAt slot).occupant.filter fun id => 5 ≤ b.adjacentFoes slot id

/-- The ants that the rule kills, in their order, when it looks at some cells one after the other. -/
def victims (b : Battle) : List Nat → List Nat
  | [] => []
  | slot :: slots => (b.victim? slot).toList ++ (b.judge slot).victims slots

theorem judge_eq_foldl_kill (b : Battle) (slot : Nat) :
    b.judge slot = (b.victim? slot).toList.foldl kill b := by
  rw [judge, victim?, surroundThreshold]
  cases (b.cellAt slot).occupant with
  | none => rfl
  | some id =>
    dsimp only
    split
    · rename_i surrounded
      simp [Option.filter_some, surrounded]
    · rename_i spared
      simp [Option.filter_some, spared]

/-- The rule does nothing but kill its victims. -/
theorem foldl_judge_eq_kill_victims (slots : List Nat) (b : Battle) :
    slots.foldl judge b = (b.victims slots).foldl kill b := by
  induction slots generalizing b with
  | nil => rfl
  | cons slot slots ih => rw [List.foldl_cons, ih, victims, List.foldl_append, ← judge_eq_foldl_kill]

theorem surroundedAt_of_victim? {b : Battle} {slot id : Nat} (sound : b.Sound)
    (struck : b.victim? slot = some id) : b.SurroundedAt id slot := by
  rw [victim?, Option.filter_eq_some_iff, decide_eq_true_eq] at struck
  obtain ⟨named, surrounded⟩ := struck
  obtain ⟨ant, present, alive, onSlot⟩ := sound.named slot id named
  exact ⟨ant, present, alive, onSlot, surrounded⟩

/-- The rule kills living ants on the cells that it looks at. -/
theorem exists_of_mem_victims {b : Battle} {slots : List Nat} {id : Nat} (sound : b.Sound)
    (struck : id ∈ b.victims slots) :
    ∃ ant, b.ant? id = some ant ∧ ant.alive ∧ ant.slot ∈ slots := by
  induction slots generalizing b with
  | nil => cases struck
  | cons slot slots ih =>
    rw [victims, List.mem_append, Option.mem_toList] at struck
    rcases struck with here | later
    · obtain ⟨ant, present, alive, rfl, -⟩ := surroundedAt_of_victim? sound here
      exact ⟨ant, present, alive, List.mem_cons_self⟩
    · obtain ⟨ant', present', alive', looked⟩ := ih (sound.deeds (deeds_judge b slot)) later
      obtain ⟨ant, present, same, alive⟩ := (thinned_judge b slot).stays id ant' present'
      exact ⟨ant, present, alive alive', List.mem_cons_of_mem _ (same ▸ looked)⟩

theorem ant?_kill_eq (b : Battle) (id j : Nat) :
    (b.kill id).ant? j = if id = j then (b.ant? j).map Ant.fall else b.ant? j := by
  cases present : b.ant? id with
  | none =>
    rw [kill_of_absent present]
    split
    · rename_i same
      rw [← same, present]
      rfl
    · rfl
  | some ant =>
    rw [ant?_kill present]
    split
    · rename_i same
      rw [← same, present]
      rfl
    · rfl

/-- The rule kills nobody twice. -/
theorem nodup_victims {b : Battle} (sound : b.Sound) (slots : List Nat) :
    (b.victims slots).Nodup := by
  induction slots generalizing b with
  | nil => exact List.nodup_nil
  | cons slot slots ih =>
    have after := sound.deeds (deeds_judge b slot)
    rw [victims]
    cases struck : b.victim? slot with
    | none => exact ih after
    | some id =>
      rw [Option.toList_some, List.singleton_append, List.nodup_cons]
      refine ⟨fun again => ?_, ih after⟩
      obtain ⟨ant, present, alive, -⟩ := exists_of_mem_victims after again
      rw [judge_eq_foldl_kill, struck, Option.toList_some, List.foldl_cons, List.foldl_nil,
        ant?_kill_eq, if_pos rfl] at present
      obtain ⟨former, -, rfl⟩ := Option.map_eq_some_iff.1 present
      cases alive

/-! ### Many deaths -/

theorem ant?_foldl_kill (ids : List Nat) (b : Battle) (j : Nat) :
    (ids.foldl kill b).ant? j = if j ∈ ids then (b.ant? j).map Ant.fall else b.ant? j := by
  induction ids generalizing b with
  | nil => simp
  | cons id ids ih =>
    rw [List.foldl_cons, ih, ant?_kill_eq]
    by_cases same : id = j
    · subst same
      simp [Function.comp_def]
    · simp [same, Ne.symm same]

/-- Each death takes one from those who have some property that no dead ant has. -/
theorem countP_foldl_kill {p : Ant → Bool} (lost : ∀ a : Ant, p a.fall = false) {ids : List Nat}
    (nodup : ids.Nodup) (b : Battle) :
    (ids.foldl kill b).ants.countP p + ids.countP (fun id => (b.ant? id).any p) =
      b.ants.countP p := by
  induction ids generalizing b with
  | nil => rfl
  | cons id ids ih =>
    obtain ⟨notMem, nodup⟩ := List.nodup_cons.1 nodup
    have first : (b.kill id).ants.countP p + ((b.ant? id).any p).toNat = b.ants.countP p := by
      cases present : b.ant? id with
      | none => rw [kill_of_absent present]; rfl
      | some ant =>
        have change := countP_changeAnt p Ant.fall present
        rw [lost] at change
        rw [kill_eq present]
        exact change
    have others : ids.countP (fun j => ((b.kill id).ant? j).any p) =
        ids.countP fun j => (b.ant? j).any p := by
      refine List.countP_congr fun j mem => ?_
      have differ : id ≠ j := fun same => notMem (same ▸ mem)
      rw [ant?_kill_eq, if_neg differ]
    have rest := ih nodup (b.kill id)
    rw [others] at rest
    have one : (if (b.ant? id).any p then 1 else 0) = ((b.ant? id).any p).toNat := by
      cases (b.ant? id).any p <;> rfl
    rw [List.foldl_cons, List.countP_cons, one, ← Nat.add_assoc, rest, first]

/-! ### The deaths of a turn -/

/-- The ants that die in the turn of ant `id`, in their order. -/
def fallen (b : Battle) (id : Nat) : List Nat :=
  match b.ant? id, b.stride? id with
  | some ant, some target => (b.relocate id ant target).victims (judged b.layout target)
  | _, _ => []

theorem fallen_of_still {b : Battle} {id : Nat} (still : b.stride? id = none) :
    b.fallen id = [] := by
  rw [fallen, still]
  split
  · rename_i steps
    cases steps
  · rfl

theorem fallen_of_step {b : Battle} {id target : Nat} {ant : Ant} (present : b.ant? id = some ant)
    (steps : b.stride? id = some target) :
    b.fallen id = (b.relocate id ant target).victims (judged b.layout target) := by
  simp only [fallen, present, steps]

/-- The turn of an ant that steps: the step, the deaths, and the ant's next state. -/
theorem takeTurn_of_step {b : Battle} {id target : Nat} (steps : b.stride? id = some target) :
    ∃ ant ifMoved ifBlocked, b.ant? id = some ant ∧ ant.alive ∧ ant.resting = 0 ∧
      (b.brains.get ant.colony).get? ant.state = some (.move ifMoved ifBlocked) ∧
      b.isFree target ∧
      b.takeTurn id = ((b.fallen id).foldl kill (b.relocate id ant target)).changeAnt id
        fun a => { a with state := ifMoved } := by
  obtain ⟨ant, ifMoved, ifBlocked, present, alive, rested, told, rfl, free⟩ :=
    stride?_eq_some_iff.1 steps
  refine ⟨ant, ifMoved, ifBlocked, present, alive, rested, told, free, ?_⟩
  rw [takeTurn_of_told present alive rested told, fallen_of_step present steps,
    ← foldl_judge_eq_kill_victims]
  simp only [act, if_pos free, judgeAround_eq_foldl]
  rfl

/-- In its turn an ant brings about the deaths of some ants, one after the other, and of no others:
they die when it has stepped ahead, and an ant that does not step brings death to nobody. -/
inductive TurnKills (b : Battle) (id : Nat) : List Nat → Prop where
  | still (quiet : ReflTransGen Quiet b (b.takeTurn id)) : TurnKills b id []
  | step {ant : Ant} {target : Nat} {ifMoved ifBlocked : State} {dead : List Nat}
      (present : b.ant? id = some ant)
      (told : (b.brains.get ant.colony).get? ant.state = some (.move ifMoved ifBlocked))
      (free : b.isFree target)
      (turn : b.takeTurn id = (dead.foldl kill (b.relocate id ant target)).changeAnt id fun a =>
        { a with state := ifMoved }) : TurnKills b id dead

theorem turnKills_fallen (b : Battle) (id : Nat) : TurnKills b id (b.fallen id) := by
  cases steps : b.stride? id with
  | none =>
    rw [fallen_of_still steps]
    exact .still (quiet_takeTurn steps)
  | some target =>
    obtain ⟨ant, _, _, present, -, -, told, free, turn⟩ := takeTurn_of_step steps
    exact .step present told free turn

section Toll

variable {b : Battle} (sound : b.Sound)

include sound

theorem nodup_fallen (id : Nat) : (b.fallen id).Nodup := by
  cases steps : b.stride? id with
  | none =>
    rw [fallen_of_still steps]
    exact List.nodup_nil
  | some target =>
    obtain ⟨ant, -, -, present, alive, -, -, free, -⟩ := takeTurn_of_step steps
    rw [fallen_of_step present steps]
    exact nodup_victims (sound.relocate present alive free) _

/-- Who dies in a turn was alive before it. -/
theorem living_of_mem_fallen {id j : Nat} (dies : j ∈ b.fallen id) : j ∈ b.livingIds := by
  cases steps : b.stride? id with
  | none =>
    rw [fallen_of_still steps] at dies
    cases dies
  | some target =>
    obtain ⟨ant, -, -, present, alive, -, -, free, -⟩ := takeTurn_of_step steps
    rw [fallen_of_step present steps] at dies
    obtain ⟨other, present', alive', -⟩ :=
      exists_of_mem_victims (sound.relocate present alive free) dies
    rw [ant?_relocate] at present'
    split at present'
    · obtain ⟨former, formerly, rfl⟩ := Option.map_eq_some_iff.1 present'
      exact ⟨former, formerly, alive'⟩
    · exact ⟨other, present', alive'⟩

end Toll

/-! ### What a turn does to one ant -/

section Turn

variable {b : Battle} {id : Nat}

theorem ant?_act_of_ne {ant : Ant} {i : Instruction} {j : Nat} (still : b.strides ant i = false)
    (differ : id ≠ j) : (b.act id ant i).1.ant? j = b.ant? j := by
  cases i with
  | sense gaze ifTrue ifFalse condition => simp only [act]; split <;> rfl
  | mark marker next => rfl
  | unmark marker next => rfl
  | pickUp ifTaken ifNot =>
    simp only [act]
    split
    · rfl
    · exact (ant?_changeAnt _ _ _ j).trans (if_neg differ)
  | drop next =>
    simp only [act]
    split
    · exact (ant?_changeAnt _ _ _ j).trans (if_neg differ)
    · rfl
  | turn rotation next => exact (ant?_changeAnt _ _ _ j).trans (if_neg differ)
  | move ifMoved ifBlocked =>
    have blocked : ¬b.isFree (b.layout.neighbor ant.slot ant.facing) := by
      simpa [strides] using still
    simp only [act, if_neg blocked]
  | flip odds ifZero ifOther => rfl

/-- The turn of another ant kills an ant or leaves it alone. -/
theorem ant?_takeTurn_of_ne {j : Nat} (differ : id ≠ j) :
    (b.takeTurn id).ant? j = if j ∈ b.fallen id then (b.ant? j).map Ant.fall else b.ant? j := by
  cases steps : b.stride? id with
  | some target =>
    obtain ⟨ant, ifMoved, -, -, -, -, -, -, turn⟩ := takeTurn_of_step steps
    rw [turn, ant?_changeAnt, if_neg differ, ant?_foldl_kill, ant?_relocate, if_neg differ]
  | none =>
    rw [fallen_of_still steps, if_neg List.not_mem_nil]
    have turn := turn_takeTurn b id
    generalize b.takeTurn id = b' at turn ⊢
    cases turn with
    | idle => rfl
    | rest => rw [ant?_changeAnt, if_neg differ]
    | @obey ant i present alive rested told =>
      have still : b.strides ant i = false := by
        simpa [stride?, present, told, alive, rested] using steps
      rw [ant?_changeAnt, if_neg differ, ant?_act_of_ne still differ]

/-- An instruction that is no step leaves the ant where it is. -/
theorem ant?_act_self {ant : Ant} {i : Instruction} (present : b.ant? id = some ant)
    (still : b.strides ant i = false) :
    ∃ facing laden, (b.act id ant i).1.ant? id = some { ant with facing, laden } := by
  have changed (f : Ant → Ant) (b' : Battle) (same : b'.ant? id = b.ant? id) :
      (b'.changeAnt id f).ant? id = some (f ant) := by
    rw [ant?_changeAnt, if_pos rfl, same, present, Option.map_some]
  cases i with
  | sense gaze ifTrue ifFalse condition =>
    refine ⟨ant.facing, ant.laden, ?_⟩
    simp only [act]
    split <;> exact present
  | mark marker next => exact ⟨ant.facing, ant.laden, present⟩
  | unmark marker next => exact ⟨ant.facing, ant.laden, present⟩
  | pickUp ifTaken ifNot =>
    simp only [act]
    split
    · exact ⟨ant.facing, ant.laden, present⟩
    · exact ⟨ant.facing, true, changed _ _ rfl⟩
  | drop next =>
    simp only [act]
    split
    · exact ⟨ant.facing, false, changed _ _ rfl⟩
    · exact ⟨ant.facing, ant.laden, present⟩
  | turn rotation next => exact ⟨rotation.apply ant.facing, ant.laden, changed _ _ rfl⟩
  | move ifMoved ifBlocked =>
    have blocked : ¬b.isFree (b.layout.neighbor ant.slot ant.facing) := by
      simpa [strides] using still
    simp only [act, if_neg blocked]
    exact ⟨ant.facing, ant.laden, present⟩
  | flip odds ifZero ifOther => exact ⟨ant.facing, ant.laden, present⟩

/-- What its own turn makes of an ant. -/
inductive OwnTurn (b : Battle) (id : Nat) (ant : Ant) : Ant → Prop where
  | dead (dead : ant.alive = false) (still : b.stride? id = none) : OwnTurn b id ant ant
  | rest (alive : ant.alive) (tired : 0 < ant.resting) (still : b.stride? id = none) :
      OwnTurn b id ant { ant with resting := ant.resting - 1 }
  | stay (alive : ant.alive) (rested : ant.resting = 0) (still : b.stride? id = none)
      (facing : Direction) (laden : Bool) (state : State) :
      OwnTurn b id ant { ant with facing, laden, state }
  | step (alive : ant.alive) (rested : ant.resting = 0) {target : Nat}
      (steps : b.stride? id = some target) (state : State) (spared : id ∉ b.fallen id) :
      OwnTurn b id ant { ant with slot := target, resting := moveRest, state }
  /-- The ant dies of its own step. -/
  | fall (alive : ant.alive) (rested : ant.resting = 0) {target : Nat}
      (steps : b.stride? id = some target) (state : State) (struck : id ∈ b.fallen id) :
      OwnTurn b id ant { ant with slot := target, resting := moveRest, state }.fall

theorem ownTurn_takeTurn {ant : Ant} (present : b.ant? id = some ant) :
    ∃ ant', (b.takeTurn id).ant? id = some ant' ∧ OwnTurn b id ant ant' := by
  cases steps : b.stride? id with
  | some target =>
    obtain ⟨stepper, ifMoved, -, present', alive, rested, -, -, turn⟩ := takeTurn_of_step steps
    cases present.symm.trans present'
    have after : (b.relocate id ant target).ant? id =
        some { ant with slot := target, resting := moveRest } := by
      rw [ant?_relocate, if_pos rfl, present]
      rfl
    rw [turn, ant?_changeAnt, if_pos rfl, ant?_foldl_kill, after]
    by_cases struck : id ∈ b.fallen id
    · rw [if_pos struck]
      exact ⟨_, rfl, .fall alive rested steps ifMoved struck⟩
    · rw [if_neg struck]
      exact ⟨_, rfl, .step alive rested steps ifMoved struck⟩
  | none =>
    have turn := turn_takeTurn b id
    generalize b.takeTurn id = b' at turn ⊢
    cases turn with
    | idle barred =>
      refine ⟨ant, present, ?_⟩
      cases alive : ant.alive with
      | false => exact .dead alive steps
      | true => exact .stay alive (barred ant present alive).1 steps ant.facing ant.laden ant.state
    | rest present' alive tired =>
      cases present.symm.trans present'
      refine ⟨_, ?_, .rest alive tired steps⟩
      rw [ant?_changeAnt, if_pos rfl, present, Option.map_some]
    | @obey stepper i present' alive rested told =>
      cases present.symm.trans present'
      have still : b.strides ant i = false := by
        simpa [stride?, present, told, alive, rested] using steps
      obtain ⟨facing, laden, after⟩ := ant?_act_self present still
      refine ⟨_, ?_, .stay alive rested steps facing laden (b.act id ant i).2⟩
      rw [ant?_changeAnt, if_pos rfl, after, Option.map_some]

/-- The dead stay as they are. -/
theorem ant?_takeTurn_of_dead {j : Nat} {ant : Ant} (sound : b.Sound)
    (present : b.ant? j = some ant) (dead : ant.alive = false) :
    (b.takeTurn id).ant? j = some ant := by
  by_cases own : id = j
  · subst own
    obtain ⟨ant', present', turn⟩ := ownTurn_takeTurn present
    cases turn with
    | dead => exact present'
    | rest alive | stay alive | step alive | fall alive => simp [alive] at dead
  · have spared : j ∉ b.fallen id := by
      intro dies
      obtain ⟨other, present', alive⟩ := living_of_mem_fallen sound dies
      cases present.symm.trans present'
      simp [alive] at dead
    rw [ant?_takeTurn_of_ne own, if_neg spared, present]

/-- An ant is alive after a turn if it was so before and has not died in it. -/
theorem alive_takeTurn {j : Nat} {ant ant' : Ant} (present : b.ant? j = some ant)
    (present' : (b.takeTurn id).ant? j = some ant') :
    ant'.alive ↔ ant.alive ∧ j ∉ b.fallen id := by
  by_cases own : id = j
  · subst own
    obtain ⟨after, isAfter, turn⟩ := ownTurn_takeTurn present
    cases isAfter.symm.trans present'
    cases turn with
    | dead dead still | rest alive tired still | stay alive rested still =>
      simp [fallen_of_still still]
    | step alive rested steps state spared => simp [spared]
    | fall alive rested steps state struck => simp [struck, Ant.fall]
  · rw [ant?_takeTurn_of_ne own, present] at present'
    split at present'
    · rename_i struck
      cases present'
      simp [struck, Ant.fall]
    · rename_i spared
      cases present'
      simp [spared]

theorem living_of_quiet {b' : Battle} (changes : ReflTransGen Quiet b b') (c : Colony) :
    b'.living c = b.living c := by
  induction changes with
  | refl => rfl
  | tail _ change ih =>
    rw [← ih]
    cases change with
    | rest | think | take | put | turn => exact countP_changeAnt_of_same _ fun _ => rfl
    | mark | roll | pass => rfl

/-- A turn takes from the living of a colony those who die in it. -/
theorem living_takeTurn (sound : b.Sound) (id : Nat) (c : Colony) :
    (b.takeTurn id).living c + (b.fallen id).countP (fun j => (b.ant? j).any (·.colony == c)) =
      b.living c := by
  cases steps : b.stride? id with
  | none =>
    rw [fallen_of_still steps, List.countP_nil, Nat.add_zero]
    exact living_of_quiet (quiet_takeTurn steps) c
  | some target =>
    obtain ⟨ant, ifMoved, -, present, alive, -, -, free, turn⟩ := takeTurn_of_step steps
    have lasting := lasting_relocate b id ant target
    have moved := sound.relocate present alive free
    -- those who die are alive when the step is done, and of the colony they always had
    have struck : (b.fallen id).countP (fun j => ((b.relocate id ant target).ant? j).any
          fun a => a.alive && a.colony == c) =
        (b.fallen id).countP fun j => (b.ant? j).any (·.colony == c) := by
      refine List.countP_congr fun j dies => ?_
      rw [fallen_of_step present steps] at dies
      obtain ⟨other, present', alive', -⟩ := exists_of_mem_victims moved dies
      obtain ⟨former, formerly, colony⟩ := lasting.exists_ant present'
      simp [present', formerly, alive', colony]
    have toll := countP_foldl_kill (p := fun a => a.alive && a.colony == c) (fun _ => rfl)
      (nodup_fallen sound id) (b.relocate id ant target)
    rw [struck] at toll
    have before : (b.relocate id ant target).living c = b.living c :=
      countP_changeAnt_of_same _ fun _ => rfl
    have after : (b.takeTurn id).living c =
        ((b.fallen id).foldl kill (b.relocate id ant target)).living c := by
      rw [turn]
      exact countP_changeAnt_of_same _ fun _ => rfl
    rw [after, ← before]
    exact toll

end Turn

/-! ### All moments -/

/-- The ants that have died up to a moment, in their order. -/
def deaths (b : Battle) (n k : Nat) : List Nat :=
  ((List.range n).flatMap fun m =>
      (List.range b.ants.size).flatMap fun id => (b.moment m id).fallen id) ++
    (List.range k).flatMap fun id => (b.moment n id).fallen id

theorem deaths_turn (b : Battle) (n k : Nat) :
    b.deaths n (k + 1) = b.deaths n k ++ (b.moment n k).fallen k := by
  simp [deaths, List.range_succ]

theorem deaths_pass (b : Battle) (n : Nat) : b.deaths (n + 1) 0 = b.deaths n b.ants.size := by
  simp [deaths, List.range_succ]

/-- The list of the deaths so far has every dead ant, once. -/
structure Mourned (b : Battle) (n k : Nat) : Prop where
  nodup : (b.deaths n k).Nodup
  dead : ∀ id ant, (b.moment n k).ant? id = some ant →
    (ant.alive = false ↔ id ∈ b.deaths n k)
  living : ∀ c, (b.moment n k).living c +
    (b.deaths n k).countP (fun id => (b.ant? id).any (·.colony == c)) = b.living c

section Moments

variable {w : World} {brains : PerColony Brain} {seed : Nat} {b : Battle}

theorem mourned_moment (started : start w brains seed = .ok b) (n k : Nat) : b.Mourned n k := by
  apply moment_induction
  case first =>
    refine ⟨List.nodup_nil, fun id ant present => ?_, fun c => rfl⟩
    obtain ⟨-, -, -, -, -, fresh, -⟩ := (begun_of_start started).exists_site_of_ant present
    rw [fresh]
    simp [Ant.fresh, deaths]
  case turn =>
    intro n k earlier
    have sound := sound_moment started n k
    have lasting := lasting_moment b n k
    -- who dies in the turn was alive before it
    have apart : (b.deaths n k).Disjoint ((b.moment n k).fallen k) := by
      intro id before now
      obtain ⟨ant, present, alive⟩ := living_of_mem_fallen sound now
      have dead := (earlier.dead id ant present).2 before
      simp [alive] at dead
    constructor
    · rw [deaths_turn]
      exact earlier.nodup.append (nodup_fallen sound k) apart
    · intro id ant' present'
      rw [moment_succ] at present'
      obtain ⟨ant, present, -⟩ := (lasting_of_deeds (deeds_takeTurn _ k)).exists_ant present'
      have alive := alive_takeTurn present present'
      rw [deaths_turn, List.mem_append, ← earlier.dead id ant present, ← Bool.not_eq_true, alive,
        ← Bool.not_eq_true]
      tauto
    · intro c
      have colonies : (fun id => ((b.moment n k).ant? id).any (·.colony == c)) =
          fun id => (b.ant? id).any (·.colony == c) := by
        funext id
        have same := congrArg (Option.any (· == c)) (lasting.colony id)
        rwa [Option.any_map, Option.any_map] at same
      have turn := living_takeTurn sound k c
      have before := earlier.living c
      rw [colonies] at turn
      rw [moment_succ, deaths_turn, List.countP_append]
      omega
  case pass =>
    intro n earlier
    have ends := moment_next b n
    constructor
    · rw [deaths_pass]
      exact earlier.nodup
    · intro id ant present
      rw [ends] at present
      rw [deaths_pass]
      exact earlier.dead id ant present
    · intro c
      rw [deaths_pass, ends]
      exact earlier.living c

/-- The dead keep their records at all later moments. -/
theorem ant?_moment_of_dead (started : start w brains seed = .ok b) {n k n' k' id : Nat} {ant : Ant}
    (present : (b.moment n k).ant? id = some ant) (dead : ant.alive = false)
    (later : n < n' ∨ n = n' ∧ k ≤ k') : (b.moment n' k').ant? id = some ant := by
  apply moment_forward (P := fun s => s.ant? id = some ant) _ _ present later
  · intro n k present
    rw [moment_succ]
    exact ant?_takeTurn_of_dead (sound_moment started n k) present dead
  · intro n present
    rw [moment_next]
    exact present

theorem living_moment_le (started : start w brains seed = .ok b) {n k n' k' : Nat}
    (later : n < n' ∨ n = n' ∧ k ≤ k') (c : Colony) :
    (b.moment n' k').living c ≤ (b.moment n k).living c := by
  apply moment_forward (P := fun s => s.living c ≤ (b.moment n k).living c) _ _ (Nat.le_refl _) later
  · intro n k fewer
    have turn := living_takeTurn (sound_moment started n k) k c
    rw [moment_succ]
    omega
  · intro n fewer
    rw [moment_next]
    exact fewer

end Moments

/-- The ants keep their number, their order and their colonies. Turns kill the ants listed for them and
no others. Whoever is dead at some moment was killed exactly once, keeps its record at all later
moments, never stands anywhere again and is not killed again. So the living of a colony never become
more, and those it had at the start and has no longer are as many as its deaths. -/
theorem death_is_final {w : World} {brains : PerColony Brain} {seed : Nat} {b : Battle}
    (started : start w brains seed = .ok b) (n k : Nat) :
    (b.moment n k).ants.size = b.ants.size ∧
    (∀ id, ((b.moment n k).ant? id).map Ant.colony = (b.ant? id).map Ant.colony) ∧
    (∀ id, (b.moment n k).TurnKills id ((b.moment n k).fallen id)) ∧
    (b.deaths n k).Nodup ∧
    (∀ id ant, (b.moment n k).ant? id = some ant →
      (ant.alive = false ↔ id ∈ b.deaths n k)) ∧
    (∀ id ant, (b.moment n k).ant? id = some ant → ant.alive = false →
      ∀ n' k', n < n' ∨ n = n' ∧ k ≤ k' →
        (b.moment n' k').ant? id = some ant ∧
        (∀ slot, ((b.moment n' k').cellAt slot).occupant ≠ some id) ∧
        id ∉ (b.moment n' k').fallen k') ∧
    (∀ n' k', n < n' ∨ n = n' ∧ k ≤ k' →
      ∀ c, (b.moment n' k').living c ≤ (b.moment n k).living c) ∧
    ∀ c, (b.moment n k).living c +
      (b.deaths n k).countP (fun id => (b.ant? id).any (·.colony == c)) =
        (b.moment n k).mustered.get c := by
  have lasting := lasting_moment b n k
  have mourned := mourned_moment started n k
  refine ⟨lasting.size, lasting.colony, turnKills_fallen _, mourned.nodup, mourned.dead, ?final,
    fun n' k' later => living_moment_le started later, ?toll⟩
  case final =>
    intro id ant present dead n' k' later
    have sound := sound_moment started n' k'
    have frozen := ant?_moment_of_dead started present dead later
    refine ⟨frozen, fun slot named => ?_, fun dies => ?_⟩
    · obtain ⟨other, present', alive, -⟩ := sound.named slot id named
      cases frozen.symm.trans present'
      simp [dead] at alive
    · obtain ⟨other, present', alive⟩ := living_of_mem_fallen sound dies
      cases frozen.symm.trans present'
      simp [dead] at alive
  case toll =>
    intro c
    have begun := begun_of_start started
    rw [mourned.living, begun.living_eq, lasting.mustered, begun.mustered, PerColony.get_ofFn]

/-- The besieged ant is the only one to die in the first round, and that is the end of it. -/
theorem besieged_dies_once : ∃ b, start siege ⟨marcher, idler⟩ 1 = .ok b ∧ b.deaths 1 0 = [3] ∧
    ∃ ant, (b.moment 1 0).ant? 3 = some ant ∧ ant.alive = false ∧
      (∀ n > 1, (b.moment n 0).ant? 3 = some ant ∧ 3 ∉ (b.moment n 0).fallen 0) ∧
      (b.moment 1 0).living .black + 1 = (b.moment 1 0).mustered.get .black := by
  obtain ⟨b, started, deaths, colony, ant, present, dead⟩ :
      ∃ b, start siege ⟨marcher, idler⟩ 1 = .ok b ∧ b.deaths 1 0 = [3] ∧
        (b.ant? 3).any (·.colony == .black) ∧
        ∃ ant, (b.moment 1 0).ant? 3 = some ant ∧ ant.alive = false := by
    refine ⟨_, rfl, ?_, ?_, _, rfl, ?_⟩ <;> decide +kernel
  obtain ⟨-, -, -, -, -, final, -, toll⟩ := death_is_final started 1 0
  have black := toll .black
  rw [deaths, List.countP_singleton, if_pos colony] at black
  refine ⟨b, started, deaths, ant, present, dead, fun n later => ?_, black⟩
  obtain ⟨frozen, -, spared⟩ := final 3 ant present dead n 0 (.inl later)
  exact ⟨frozen, spared⟩

end Battle

end Formicary
