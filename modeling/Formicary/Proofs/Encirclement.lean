/-
Module: Formicary.Proofs.Encirclement
Purpose: The surround rule, which looks only around the cell of a step, misses nobody: who is
  surrounded at some moment has been so since the start.
Main exports: Battle.SurroundedAt, Battle.Thinned, Battle.not_surroundedAt_of_mem_judged,
  Battle.surroundedAt_before_turn, Battle.surrounded_since_start
-/
import Formicary.Proofs.Occupancy

namespace Formicary

namespace Battle

open Relation (ReflTransGen)

/-- Ant `id` is alive, stands on the cell of a slot, and has five or more foes next to it. -/
def SurroundedAt (b : Battle) (id slot : Nat) : Prop :=
  ∃ ant, b.ant? id = some ant ∧ ant.alive ∧ ant.slot = slot ∧
    5 ≤ b.adjacentFoes slot id

instance (b : Battle) (id slot : Nat) : Decidable (b.SurroundedAt id slot) :=
  decidable_of_iff ((b.ant? id).any fun ant => ant.alive && ant.slot == slot &&
      decide (5 ≤ b.adjacentFoes slot id)) <| by
    simp [SurroundedAt, Option.any_eq_true, and_assoc]

/-! ### Fewer foes -/

theorem hasFoeOf_iff {b : Battle} {c : Colony} {s : Nat} :
    b.hasFoeOf c s ↔
      ∃ id ant, (b.cellAt s).occupant = some id ∧ b.ant? id = some ant ∧ ant.colony ≠ c := by
  simp only [hasFoeOf, occupant?, Option.any_eq_true, Option.bind_eq_some_iff, bne_iff_ne]
  constructor
  · rintro ⟨ant, ⟨id, named, present⟩, foe⟩
    exact ⟨id, ant, named, present, foe⟩
  · rintro ⟨id, ant, named, present, foe⟩
    exact ⟨ant, ⟨id, named, present⟩, foe⟩

namespace Lasting

variable {b b' : Battle} (lasting : Lasting b b')

include lasting

theorem exists_ant {id : Nat} {ant' : Ant} (present : b'.ant? id = some ant') :
    ∃ ant, b.ant? id = some ant ∧ ant'.colony = ant.colony := by
  have same := lasting.colony id
  rw [present, Option.map_some] at same
  obtain ⟨ant, formerly, colony⟩ := Option.map_eq_some_iff.1 same.symm
  exact ⟨ant, formerly, colony.symm⟩

/-- An ant has no more foes than before if nobody has come to the cells around it. -/
theorem adjacentFoes_le {slot : Nat} (id : Nat)
    (nobodyCame : ∀ d i, (b'.cellAt (b.layout.neighbor slot d)).occupant = some i →
      (b.cellAt (b.layout.neighbor slot d)).occupant = some i) :
    b'.adjacentFoes slot id ≤ b.adjacentFoes slot id := by
  cases present : b'.ant? id with
  | none => simp only [adjacentFoes, present, Nat.zero_le]
  | some ant' =>
    obtain ⟨ant, formerly, colony⟩ := lasting.exists_ant present
    simp only [adjacentFoes, present, formerly, lasting.layout, colony]
    refine List.countP_mono_left fun d _ foe => ?_
    obtain ⟨i, other', named, present', hostile⟩ := hasFoeOf_iff.1 foe
    obtain ⟨other, present, colony'⟩ := lasting.exists_ant present'
    exact hasFoeOf_iff.2 ⟨i, other, nobodyCame d i named, present, colony' ▸ hostile⟩

end Lasting

/-! ### Changes that bring nobody anywhere -/

/-- Who stands somewhere stood there before, and who lives lived before. -/
structure Thinned (b b' : Battle) : Prop where
  lasting : Lasting b b'
  occupant : ∀ s id, (b'.cellAt s).occupant = some id → (b.cellAt s).occupant = some id
  stays : ∀ id ant', b'.ant? id = some ant' →
    ∃ ant, b.ant? id = some ant ∧ ant'.slot = ant.slot ∧ (ant'.alive → ant.alive)

namespace Thinned

theorem refl (b : Battle) : Thinned b b :=
  ⟨.refl b, fun _ _ named => named, fun _ ant present => ⟨ant, present, rfl, fun alive => alive⟩⟩

theorem trans {a b c : Battle} (first : Thinned a b) (second : Thinned b c) : Thinned a c where
  lasting := first.lasting.trans second.lasting
  occupant s id named := first.occupant s id (second.occupant s id named)
  stays id ant'' present := by
    obtain ⟨ant', present', slot', alive'⟩ := second.stays id ant'' present
    obtain ⟨ant, present, slot, alive⟩ := first.stays id ant' present'
    exact ⟨ant, present, slot'.trans slot, fun h => alive (alive' h)⟩

theorem changeAnt (b : Battle) (id : Nat) {f : Ant → Ant}
    (same : ∀ a, (f a).colony = a.colony ∧ (f a).slot = a.slot ∧ ((f a).alive → a.alive)) :
    Thinned b (b.changeAnt id f) where
  lasting := .changeAnt b id fun a => (same a).1
  occupant _ _ named := named
  stays j ant' present := by
    rw [ant?_changeAnt] at present
    split at present
    · obtain ⟨ant, formerly, rfl⟩ := Option.map_eq_some_iff.1 present
      exact ⟨ant, formerly, (same ant).2⟩
    · exact ⟨ant', present, rfl, fun alive => alive⟩

theorem changeCell (b : Battle) (slot : Nat) {f : Cell → Cell}
    (nobodyCame : ∀ c id, (f c).occupant = some id → c.occupant = some id) :
    Thinned b (b.changeCell slot f) where
  lasting := .changeCell b slot f
  occupant s id named := by
    rw [cellAt_changeCell] at named
    split at named
    · exact nobodyCame _ id named
    · exact named
  stays _ ant present := ⟨ant, present, rfl, fun alive => alive⟩

theorem changeLedger (b : Battle) (f : Ledger → Ledger) : Thinned b (b.changeLedger f) :=
  ⟨.changeLedger b f, fun _ _ named => named,
    fun _ ant present => ⟨ant, present, rfl, fun alive => alive⟩⟩

/-- Who is surrounded after such a change was so before it. -/
theorem surroundedAt {b b' : Battle} {id slot : Nat} (thinned : Thinned b b')
    (surrounded : b'.SurroundedAt id slot) : b.SurroundedAt id slot := by
  obtain ⟨ant', present', alive', rfl, foes⟩ := surrounded
  obtain ⟨ant, present, slot, alive⟩ := thinned.stays id ant' present'
  exact ⟨ant, present, alive alive', slot.symm,
    foes.trans (thinned.lasting.adjacentFoes_le id fun _ i => thinned.occupant _ i)⟩

end Thinned

theorem Quiet.thinned {b b' : Battle} (change : Quiet b b') : Thinned b b' := by
  cases change with
  | rest => exact .changeAnt b _ fun _ => ⟨rfl, rfl, fun alive => alive⟩
  | think => exact .changeAnt b _ fun _ => ⟨rfl, rfl, fun alive => alive⟩
  | mark => exact .changeCell b _ fun _ _ named => named
  | take =>
    refine .trans (.trans (.changeCell b _ ?_) (.changeLedger _ _)) (.changeAnt _ _ ?_)
    · exact fun _ _ named => named
    · exact fun _ => ⟨rfl, rfl, fun alive => alive⟩
  | put =>
    refine .trans (.trans (.changeCell b _ ?_) (.changeLedger _ _)) (.changeAnt _ _ ?_)
    · exact fun _ _ named => named
    · exact fun _ => ⟨rfl, rfl, fun alive => alive⟩
  | turn => exact .changeAnt b _ fun _ => ⟨rfl, rfl, fun alive => alive⟩
  | roll => exact { Thinned.refl b with lasting := (Quiet.roll _).lasting }
  | pass => exact { Thinned.refl b with lasting := Quiet.pass.lasting }

theorem thinned_kill (b : Battle) (id : Nat) : Thinned b (b.kill id) := by
  cases present : b.ant? id with
  | none =>
    rw [kill_of_absent present]
    exact .refl b
  | some ant =>
    rw [kill_eq present]
    refine .trans (.trans (.changeAnt b id ?_) (.changeCell _ _ ?_)) (.changeLedger _ _)
    · exact fun _ => ⟨rfl, rfl, fun risen => by cases risen⟩
    · exact fun _ _ named => by cases named

theorem thinned_judge (b : Battle) (slot : Nat) : Thinned b (b.judge slot) := by
  unfold judge
  split
  · exact .refl b
  · split
    · exact thinned_kill b _
    · exact .refl b

theorem thinned_foldl_judge (slots : List Nat) (b : Battle) : Thinned b (slots.foldl judge b) := by
  induction slots generalizing b with
  | nil => exact .refl b
  | cons slot slots ih => exact (thinned_judge b slot).trans (ih (b.judge slot))

/-! ### Nobody is left surrounded where the rule has looked -/

theorem not_surroundedAt_judge {b : Battle} (sound : b.Sound) (id slot : Nat) :
    ¬(b.judge slot).SurroundedAt id slot := by
  intro surrounded
  -- before the rule was applied the same ant was surrounded on the same cell
  obtain ⟨ant, present, alive, rfl, foes⟩ := (thinned_judge b slot).surroundedAt surrounded
  have named := (sound.stands id ant present alive).2.2
  obtain ⟨ant', present', alive', -⟩ := surrounded
  have dies : b.judge ant.slot = b.kill id := by rw [judge_of_named named, if_pos foes]
  rw [dies, ant?_kill present, if_pos rfl] at present'
  cases present'
  cases alive'

theorem not_surroundedAt_foldl_judge {b : Battle} (sound : b.Sound) (id : Nat) {slot : Nat}
    {slots : List Nat} (mem : slot ∈ slots) : ¬(slots.foldl judge b).SurroundedAt id slot := by
  induction slots generalizing b with
  | nil => cases mem
  | cons s slots ih =>
    rw [List.foldl_cons]
    rcases List.mem_cons.1 mem with rfl | mem
    · exact fun surrounded => not_surroundedAt_judge sound id slot
        ((thinned_foldl_judge slots _).surroundedAt surrounded)
    · exact ih (sound.deeds (deeds_judge b s)) mem

/-- Who is surrounded after a step, where the rule does not look, did not step and was surrounded
before. -/
theorem surroundedAt_of_relocate {b : Battle} {id target : Nat} {ant : Ant} {j slot : Nat}
    (word : slot < 2 ^ 64) (unjudged : slot ∉ judged b.layout target)
    (surrounded : (b.relocate id ant target).SurroundedAt j slot) :
    id ≠ j ∧ b.SurroundedAt j slot := by
  obtain ⟨other, present, alive, rfl, foes⟩ := surrounded
  -- the cell that is entered lies next to none but the cells around it
  have notBeside (d : Direction) : target ≠ b.layout.neighbor other.slot d := by
    rintro rfl
    exact unjudged (List.mem_cons_of_mem _ (List.mem_map.2
      ⟨d + 3, Direction.mem_all _, b.layout.neighbor_neighbor word d⟩))
  rw [ant?_relocate] at present
  split at present
  · obtain ⟨former, -, rfl⟩ := Option.map_eq_some_iff.1 present
    exact absurd List.mem_cons_self unjudged
  · rename_i differ
    refine ⟨differ, other, present, alive, rfl, foes.trans ?_⟩
    refine (lasting_relocate b id ant target).adjacentFoes_le j fun d i named => ?_
    rw [cellAt_relocate] at named
    dsimp only at named
    rw [if_neg fun h => notBeside d h.1] at named
    split at named
    · cases named
    · exact named

/-! ### Turns -/

/-- The turn of an ant that does not step. -/
theorem quiet_takeTurn {b : Battle} {id : Nat} (still : b.stride? id = none) :
    ReflTransGen Quiet b (b.takeTurn id) := by
  have turn := turn_takeTurn b id
  generalize b.takeTurn id = b' at turn ⊢
  cases turn with
  | idle => exact .refl
  | rest present alive tired => exact .single (.rest present alive tired)
  | @obey ant i present alive rested told =>
    have steady : b.strides ant i = false := by
      simpa [stride?, present, told, alive, rested] using still
    exact (quiet_act present alive i steady).tail (quiet_obey present alive told)

/-- The turn of an ant that steps. -/
theorem takeTurn_of_stride {b : Battle} {id target : Nat} (steps : b.stride? id = some target) :
    ∃ ant, b.ant? id = some ant ∧ ant.alive ∧ b.isFree target ∧
      Quiet ((b.relocate id ant target).judgeAround target) (b.takeTurn id) := by
  obtain ⟨ant, ifMoved, ifBlocked, present, alive, rested, told, rfl, free⟩ :=
    stride?_eq_some_iff.1 steps
  have strides : b.strides ant (.move ifMoved ifBlocked) := free
  have entered := quiet_obey present alive told
  rw [← takeTurn_of_told present alive rested told, act_of_strides strides] at entered
  exact ⟨ant, present, alive, free, entered⟩

theorem thinned_of_quiet {b b' : Battle} (changes : ReflTransGen Quiet b b') : Thinned b b' := by
  induction changes with
  | refl => exact .refl b
  | tail _ change ih => exact ih.trans change.thinned

/-- Who is surrounded after a turn was so before it, and did not step. -/
theorem surroundedAt_before_turn {b : Battle} (sound : b.Sound)
    (fits : ∀ slot ∈ b.layout.slots.map Prod.snd, slot < 2 ^ 64) {t id slot : Nat}
    (surrounded : (b.takeTurn t).SurroundedAt id slot) :
    b.SurroundedAt id slot ∧ (t = id → b.stride? t = none) := by
  cases steps : b.stride? t with
  | none => exact ⟨(thinned_of_quiet (quiet_takeTurn steps)).surroundedAt surrounded, fun _ => rfl⟩
  | some target =>
    obtain ⟨ant, present, alive, free, entered⟩ := takeTurn_of_stride steps
    have moved := sound.relocate present alive free
    rw [judgeAround_eq_foldl] at entered
    have spared := entered.thinned.surroundedAt surrounded
    have unjudged : slot ∉ judged b.layout target := fun mem =>
      not_surroundedAt_foldl_judge moved id mem spared
    have arrived := (thinned_foldl_judge _ _).surroundedAt spared
    have ⟨other, there, lives, onSlot, _⟩ := arrived
    have word := fits slot (onSlot ▸ (moved.stands id other there lives).1)
    obtain ⟨differ, before⟩ := surroundedAt_of_relocate word unjudged arrived
    exact ⟨before, fun same => absurd same differ⟩

/-! ### All moments -/

section Moments

variable {w : World} {brains : PerColony Brain} {seed : Nat} {b : Battle}

theorem surroundedAt_before (bounded : w.Bounded) (started : start w brains seed = .ok b)
    {n k id slot : Nat} (surrounded : (b.moment n (k + 1)).SurroundedAt id slot) :
    (b.moment n k).SurroundedAt id slot ∧ (k = id → (b.moment n k).stride? k = none) := by
  have covers := (begun_of_start started).covers
  rw [moment_succ] at surrounded
  refine surroundedAt_before_turn (sound_moment started n k) (fun slot mem => ?_) surrounded
  rw [(lasting_moment b n k).layout] at mem
  exact (covers.lt_size mem).trans (covers.size_lt_word bounded)

theorem surroundedAt_earlier (bounded : w.Bounded) (started : start w brains seed = .ok b)
    {n k n' k' id slot : Nat} (surrounded : (b.moment n k).SurroundedAt id slot)
    (earlier : n' < n ∨ n' = n ∧ k' ≤ k) : (b.moment n' k').SurroundedAt id slot := by
  refine moment_backward (P := fun b' => b'.SurroundedAt id slot)
    (fun n k later => (surroundedAt_before bounded started later).1) (fun n later => ?_)
    surrounded earlier
  rw [moment_next] at later
  exact Quiet.pass.thinned.surroundedAt later

end Moments

/-- Whoever is alive with five foes or more around it, after a round or between two turns, has stood
where it stands since the start, has taken no step, and has had five foes or more around it all the
time. So if nobody is surrounded at the start, nobody ever is when a turn is over. -/
theorem surrounded_since_start {w : World} {brains : PerColony Brain} {seed : Nat} {b : Battle}
    (bounded : w.Bounded) (started : start w brains seed = .ok b) (n k : Nat) :
    (∀ id slot, (b.moment n k).SurroundedAt id slot →
      (∃ spawned, b.ant? id = some spawned ∧ spawned.slot = slot) ∧
      (∀ n', n' < n ∨ n' = n ∧ id < k → (b.moment n' id).stride? id = none) ∧
      ∀ n' k', n' < n ∨ n' = n ∧ k' ≤ k → (b.moment n' k').SurroundedAt id slot) ∧
    ((∀ id slot, ¬b.SurroundedAt id slot) → ∀ id slot, ¬(b.moment n k).SurroundedAt id slot) := by
  have atStart {id slot : Nat} (surrounded : (b.moment n k).SurroundedAt id slot) :
      (b.moment 0 0).SurroundedAt id slot := by
    apply surroundedAt_earlier bounded started surrounded
    rcases Nat.eq_zero_or_pos n with rfl | later
    · exact .inr ⟨rfl, Nat.zero_le k⟩
    · exact .inl later
  constructor
  · intro id slot surrounded
    refine ⟨?spawned, ?unmoved, ?always⟩
    case spawned =>
      obtain ⟨spawned, present, -, onSlot, -⟩ := atStart surrounded
      exact ⟨spawned, present, onSlot⟩
    case unmoved =>
      intro n' earlier
      have after : (b.moment n' (id + 1)).SurroundedAt id slot := by
        apply surroundedAt_earlier bounded started surrounded
        rcases earlier with before | ⟨rfl, before⟩
        · exact .inl before
        · exact .inr ⟨rfl, before⟩
      exact (surroundedAt_before bounded started after).2 rfl
    case always =>
      intro n' k' earlier
      exact surroundedAt_earlier bounded started surrounded earlier
  · intro nobody id slot surrounded
    exact nobody id slot (atStart surrounded)

/-- Where nobody steps, the besieged ant lives on. -/
theorem siege_lasts : ∃ b, start siege ⟨idler, idler⟩ 1 = .ok b ∧
    (b.moment 1 0).SurroundedAt 3 12 := by
  refine ⟨_, rfl, ?_⟩
  decide +kernel

theorem surrounded_in_siege : siege.Bounded ∧ ∃ b, start siege ⟨idler, idler⟩ 1 = .ok b ∧
    (b.moment 1 0).SurroundedAt 3 12 ∧ (b.moment 0 3).stride? 3 = none ∧
    (b.moment 0 0).SurroundedAt 3 12 := by
  have bounded : siege.Bounded := by decide
  obtain ⟨b, started, surrounded⟩ := siege_lasts
  obtain ⟨-, unmoved, always⟩ := (surrounded_since_start bounded started 1 0).1 3 12 surrounded
  exact ⟨bounded, b, started, surrounded, unmoved 0 (.inl Nat.one_pos), always 0 0 (.inl Nat.one_pos)⟩

end Battle

end Formicary
