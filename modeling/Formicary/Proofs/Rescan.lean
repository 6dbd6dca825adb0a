/-
Module: Formicary.Proofs.Rescan
Purpose: The surround rule, which looks at seven cells after a step and in a certain order, does what
  a look at all cells in any order would do.
Main exports: Battle.kill_comm, Battle.Calm, Battle.OneSided, Battle.doomed,
  Battle.foldl_judge_eq_foldl_kill, Battle.foldl_judge_after_step, Battle.judging_is_rescan
-/
import Formicary.Proofs.Encirclement

namespace Formicary

/-! ### Changes that commute -/

/-- Changes of two elements commute if they do so on one and the same element. -/
theorem modify_comm {α : Type} {f g : α → α} {i j : Nat}
    (comm : i = j → ∀ a, f (g a) = g (f a)) (xs : Array α) :
    (xs.modify i f).modify j g = (xs.modify j g).modify i f := by
  apply Array.ext_getElem?
  intro k
  simp only [Array.getElem?_modify]
  by_cases first : i = k
  · by_cases second : j = k
    · simp only [if_pos first, if_pos second, Option.map_map, Function.comp_def,
        comm (first.trans second.symm)]
    · rw [if_pos first, if_neg second, if_pos first, if_neg second]
  · rw [if_neg first, if_neg first]

namespace Ledger

/-- What a death does to the account. -/
def bury (l : Ledger) (owner : Option Colony) (c : Colony) (laden : Bool) : Ledger :=
  if laden then (l.put owner (corpseFood + laden.toNat)).unload c
  else l.put owner (corpseFood + laden.toNat)

/-- An account is known by what it says of each owner and of each colony's load. -/
theorem ext_entries {l l' : Ledger} (lying : ∀ o, l.lying o = l'.lying o)
    (carried : ∀ c, l.carried.get c = l'.carried.get c) : l = l' := by
  obtain ⟨hill, load, unclaimed⟩ := l
  obtain ⟨hill', load', unclaimed'⟩ := l'
  have sameHill : hill = hill' := PerColony.ext_get fun c => lying (some c)
  have sameLoad : load = load' := PerColony.ext_get carried
  have sameRest : unclaimed = unclaimed' := lying none
  rw [sameHill, sameLoad, sameRest]

@[simp] theorem lying_bury (l : Ledger) (owner o : Option Colony) (c : Colony) (laden : Bool) :
    (l.bury owner c laden).lying o =
      l.lying o + if owner = o then corpseFood + laden.toNat else 0 := by
  cases laden <;> simp [bury]

@[simp] theorem carried_bury (l : Ledger) (owner : Option Colony) (c d : Colony) (laden : Bool) :
    (l.bury owner c laden).carried.get d =
      l.carried.get d - if c = d then laden.toNat else 0 := by
  cases laden <;> simp [bury]

theorem bury_comm (l : Ledger) (owner owner' : Option Colony) (c c' : Colony)
    (laden laden' : Bool) :
    (l.bury owner c laden).bury owner' c' laden' =
      (l.bury owner' c' laden').bury owner c laden := by
  apply ext_entries
  · intro o
    simp only [lying_bury]
    exact Nat.add_right_comm _ _ _
  · intro d
    simp only [carried_bury]
    exact Nat.sub_right_comm _ _ _

end Ledger

namespace Battle

/-! ### Deaths in any order -/

/-- The death of an ant as three changes that do not depend on the rest of the battle. -/
theorem kill_eq_bury {b : Battle} {id : Nat} {ant : Ant} (present : b.ant? id = some ant) :
    b.kill id =
      { b with
        ants := b.ants.modify id fun a => { a with alive := false, laden := false }
        cells := b.cells.modify ant.slot fun c =>
          { c with occupant := none, food := c.food + (corpseFood + ant.laden.toNat) }
        ledger := b.ledger.bury (b.cellAt ant.slot).owner ant.colony ant.laden } :=
  kill_eq present

theorem owner_kill (b : Battle) (id s : Nat) : ((b.kill id).cellAt s).owner = (b.cellAt s).owner := by
  cases present : b.ant? id with
  | none => rw [kill_of_absent present]
  | some ant =>
    rw [cellAt_kill present]
    split <;> rfl

theorem ant?_kill_of_ne {id j : Nat} (differ : id ≠ j) (b : Battle) :
    (b.kill id).ant? j = b.ant? j := by
  cases present : b.ant? id with
  | none => rw [kill_of_absent present]
  | some ant => rw [ant?_kill present, if_neg differ]

/-- It does not matter who dies first. -/
theorem kill_comm (b : Battle) (i j : Nat) : (b.kill i).kill j = (b.kill j).kill i := by
  by_cases same : i = j
  · rw [same]
  · have first : (b.kill j).ant? i = b.ant? i := ant?_kill_of_ne (Ne.symm same) b
    have second : (b.kill i).ant? j = b.ant? j := ant?_kill_of_ne same b
    cases presentI : b.ant? i with
    | none => rw [kill_of_absent presentI, kill_of_absent (first.trans presentI)]
    | some x =>
      cases presentJ : b.ant? j with
      | none => rw [kill_of_absent presentJ, kill_of_absent (second.trans presentJ)]
      | some y =>
        rw [kill_eq_bury (second.trans presentJ), kill_eq_bury (first.trans presentI), owner_kill,
          owner_kill, kill_eq_bury presentI, kill_eq_bury presentJ]
        have ants := modify_comm (i := i) (j := j)
          (f := fun a : Ant => { a with alive := false, laden := false })
          (g := fun a => { a with alive := false, laden := false }) (fun _ _ => rfl) b.ants
        have cells := modify_comm (i := x.slot) (j := y.slot)
          (f := fun c : Cell =>
            { c with occupant := none, food := c.food + (corpseFood + x.laden.toNat) })
          (g := fun c => { c with occupant := none, food := c.food + (corpseFood + y.laden.toNat) })
          (fun _ c => by simp only [Nat.add_right_comm]) b.cells
        dsimp only
        rw [ants, cells, Ledger.bury_comm]

theorem foldl_kill_perm {ids ids' : List Nat} (perm : ids.Perm ids') (b : Battle) :
    ids.foldl kill b = ids'.foldl kill b :=
  perm.foldl_eq' (fun i _ j _ b => kill_comm b i j) b

/-- A death takes one from the living. -/
theorem livingIds_kill (b : Battle) (id : Nat) : (b.kill id).livingIds = b.livingIds \ {id} := by
  ext j
  simp only [livingIds, Set.mem_ofPred_eq, Set.mem_sdiff, Set.mem_singleton_iff]
  by_cases same : id = j
  · constructor
    · rintro ⟨ant, present, alive⟩
      cases formerly : b.ant? id with
      | none =>
        rw [kill_of_absent formerly, ← same, formerly] at present
        cases present
      | some former =>
        rw [ant?_kill formerly, if_pos same] at present
        cases present
        cases alive
    · rintro ⟨-, other⟩
      exact absurd same.symm other
  · rw [ant?_kill_of_ne same]
    constructor
    · intro living
      exact ⟨living, Ne.symm same⟩
    · rintro ⟨living, -⟩
      exact living

theorem livingIds_foldl_kill (ids : List Nat) (b : Battle) :
    (ids.foldl kill b).livingIds = b.livingIds \ {j | j ∈ ids} := by
  induction ids generalizing b with
  | nil => simp
  | cons id ids ih =>
    rw [List.foldl_cons, ih, livingIds_kill]
    ext j
    simp only [Set.mem_sdiff, Set.mem_singleton_iff, Set.mem_ofPred_eq, List.mem_cons, not_or,
      and_assoc]

/-! ### Foes that stay -/

/-- An ant has no more foes than before if no foe has come to the cells around it. -/
theorem adjacentFoes_mono {b b' : Battle} {slot id : Nat} {ant ant' : Ant}
    (layout : b'.layout = b.layout) (present : b.ant? id = some ant)
    (present' : b'.ant? id = some ant') (colony : ant'.colony = ant.colony)
    (noFoeCame : ∀ d, b'.hasFoeOf ant.colony (b.layout.neighbor slot d) →
      b.hasFoeOf ant.colony (b.layout.neighbor slot d)) :
    b'.adjacentFoes slot id ≤ b.adjacentFoes slot id := by
  simp only [adjacentFoes, present, present', layout, colony]
  exact List.countP_mono_left fun d _ => noFoeCame d

/-- The death of an ant takes no foe from its own colony. -/
theorem hasFoeOf_kill {b : Battle} {id s : Nat} {ant : Ant} (sound : b.Sound)
    (present : b.ant? id = some ant) (alive : ant.alive) (foe : b.hasFoeOf ant.colony s) :
    (b.kill id).hasFoeOf ant.colony s := by
  obtain ⟨j, other, named, present', hostile⟩ := hasFoeOf_iff.1 foe
  have differ : id ≠ j := by
    rintro rfl
    cases present.symm.trans present'
    exact hostile rfl
  have apart : ant.slot ≠ s := by
    rintro rfl
    have standing := (sound.stands id ant present alive).2.2
    exact differ (Option.some.inj (standing.symm.trans named))
  refine hasFoeOf_iff.2 ⟨j, other, ?_, (ant?_kill_of_ne differ b).trans present', hostile⟩
  rw [cellAt_kill present, if_neg fun h => apart h.1, named]

/-! ### Where only one colony is in danger -/

/-- Nobody is surrounded. -/
def Calm (b : Battle) : Prop := ∀ id slot, ¬b.SurroundedAt id slot

theorem calm_iff {b : Battle} :
    b.Calm ↔ ∀ id < b.ants.size, ¬b.SurroundedAt id (b.slotOf id) := by
  constructor
  · intro calm id _
    exact calm id (b.slotOf id)
  · intro calm id slot surrounded
    have ⟨ant, present, _, onSlot, _⟩ := surrounded
    have number : id < b.ants.size := (Array.getElem?_eq_some_iff.1 present).1
    have place : b.slotOf id = slot := by simp [slotOf, present, onSlot]
    exact calm id number (place ▸ surrounded)

instance (b : Battle) : Decidable b.Calm := decidable_of_iff _ calm_iff.symm

/-- Whoever is surrounded is of colony `c`. -/
def OneSided (b : Battle) (c : Colony) : Prop :=
  ∀ id slot ant, b.SurroundedAt id slot → b.ant? id = some ant → ant.colony = c

theorem Calm.oneSided {b : Battle} (calm : b.Calm) (c : Colony) : b.OneSided c :=
  fun id slot _ surrounded _ => absurd surrounded (calm id slot)

/-- The ants that are surrounded on the cells of some slots, by number. -/
def doomed (b : Battle) (slots : List Nat) : List Nat :=
  (List.range b.ants.size).filter fun id => slots.any fun slot => b.SurroundedAt id slot

theorem mem_doomed {b : Battle} {slots : List Nat} {id : Nat} :
    id ∈ b.doomed slots ↔ ∃ slot ∈ slots, b.SurroundedAt id slot := by
  simp only [doomed, List.mem_filter, List.mem_range, List.any_eq_true, decide_eq_true_eq]
  constructor
  · rintro ⟨-, surrounded⟩
    exact surrounded
  · rintro ⟨slot, mem, surrounded⟩
    have ⟨ant, present, _⟩ := surrounded
    exact ⟨(Array.getElem?_eq_some_iff.1 present).1, slot, mem, surrounded⟩

theorem nodup_doomed (b : Battle) (slots : List Nat) : (b.doomed slots).Nodup :=
  List.nodup_range.filter _

theorem judge_of_surroundedAt {b : Battle} {id slot : Nat} (sound : b.Sound)
    (surrounded : b.SurroundedAt id slot) : b.judge slot = b.kill id := by
  obtain ⟨ant, present, alive, rfl, foes⟩ := surrounded
  have named := (sound.stands id ant present alive).2.2
  rw [judge_of_named named, if_pos foes]

theorem judge_of_forall_not {b : Battle} {slot : Nat} (sound : b.Sound)
    (nobody : ∀ id, ¬b.SurroundedAt id slot) : b.judge slot = b := by
  cases named : (b.cellAt slot).occupant with
  | none => simp only [judge, named]
  | some id =>
    obtain ⟨ant, present, alive, onSlot⟩ := sound.named slot id named
    have spared : ¬5 ≤ b.adjacentFoes slot id := by
      intro foes
      exact nobody id ⟨ant, present, alive, onSlot, foes⟩
    rw [judge_of_named named, if_neg spared]

/-- Only one of a cell's slot can be surrounded there. -/
theorem SurroundedAt.unique {b : Battle} {i j slot : Nat} (sound : b.Sound)
    (first : b.SurroundedAt i slot) (second : b.SurroundedAt j slot) : i = j := by
  obtain ⟨x, presentX, aliveX, onSlot, -⟩ := first
  obtain ⟨y, presentY, aliveY, rfl, -⟩ := second
  exact sound.slot_inj presentX presentY aliveX aliveY onSlot

/-- Where only one colony is in danger a death saves nobody else. -/
theorem surroundedAt_kill_iff {b : Battle} {c : Colony} {id here j slot : Nat} (sound : b.Sound)
    (oneSided : b.OneSided c) (dying : b.SurroundedAt id here) :
    (b.kill id).SurroundedAt j slot ↔ b.SurroundedAt j slot ∧ j ≠ id := by
  have ⟨ant, present, alive, _⟩ := dying
  have mine : ant.colony = c := oneSided id here ant dying present
  constructor
  · intro surrounded
    refine ⟨(thinned_kill b id).surroundedAt surrounded, ?_⟩
    rintro rfl
    obtain ⟨dead, present', alive', -⟩ := surrounded
    rw [ant?_kill present, if_pos rfl] at present'
    cases present'
    cases alive'
  · rintro ⟨surrounded, differ⟩
    have ⟨other, present', alive', onSlot, foes⟩ := surrounded
    have same : other.colony = ant.colony := (oneSided j slot other surrounded present').trans mine.symm
    have kept : (b.kill id).ant? j = some other :=
      (ant?_kill_of_ne (Ne.symm differ) b).trans present'
    have stay : b.adjacentFoes slot j ≤ (b.kill id).adjacentFoes slot j := by
      refine adjacentFoes_mono (lasting_kill b id).layout.symm kept present' rfl ?_
      rw [same, (lasting_kill b id).layout]
      exact fun d => hasFoeOf_kill sound present alive
    exact ⟨other, kept, alive', onSlot, foes.trans stay⟩

theorem Sound.kill_of_surroundedAt {b : Battle} {id slot : Nat} (sound : b.Sound)
    (surrounded : b.SurroundedAt id slot) : (b.kill id).Sound := by
  obtain ⟨ant, present, alive, -⟩ := surrounded
  exact sound.kill (sound.stands id ant present alive).2.2

/-- Where only one colony is in danger, the rule applied to some cells in any order kills all those
that are surrounded there before its first application, and nobody else. -/
theorem foldl_judge_eq_foldl_kill {b : Battle} {c : Colony} (sound : b.Sound)
    (oneSided : b.OneSided c) (slots : List Nat) :
    slots.foldl judge b = (b.doomed slots).foldl kill b := by
  induction slots generalizing b with
  | nil =>
    have nobody : b.doomed [] = [] := List.filter_eq_nil_iff.2 fun _ _ => by simp
    rw [nobody]
    rfl
  | cons slot slots ih =>
    rw [List.foldl_cons]
    by_cases somebody : ∃ id, b.SurroundedAt id slot
    · obtain ⟨id, surrounded⟩ := somebody
      have after : (b.kill id).OneSided c := by
        intro j s other danger present
        obtain ⟨formerly, differ⟩ := (surroundedAt_kill_iff sound oneSided surrounded).1 danger
        rw [ant?_kill_of_ne (Ne.symm differ)] at present
        exact oneSided j s other formerly present
      -- the first to die and those doomed after that are those doomed before
      have perm : (id :: (b.kill id).doomed slots).Perm (b.doomed (slot :: slots)) := by
        have fresh : id ∉ (b.kill id).doomed slots := by
          intro mem
          obtain ⟨s, -, danger⟩ := mem_doomed.1 mem
          exact ((surroundedAt_kill_iff sound oneSided surrounded).1 danger).2 rfl
        refine (List.perm_ext_iff_of_nodup (List.nodup_cons.2 ⟨fresh, nodup_doomed _ _⟩)
          (nodup_doomed _ _)).2 fun j => ?_
        simp only [List.mem_cons, mem_doomed, surroundedAt_kill_iff sound oneSided surrounded]
        constructor
        · rintro (rfl | ⟨s, mem, danger, -⟩)
          · exact ⟨slot, .inl rfl, surrounded⟩
          · exact ⟨s, .inr mem, danger⟩
        · rintro ⟨s, rfl | mem, danger⟩
          · exact .inl (danger.unique sound surrounded)
          · by_cases same : j = id
            · exact .inl same
            · exact .inr ⟨s, mem, danger, same⟩
      rw [judge_of_surroundedAt sound surrounded, ih (sound.kill_of_surroundedAt surrounded) after,
        ← foldl_kill_perm perm, List.foldl_cons]
    · have nobody : ∀ id, ¬b.SurroundedAt id slot := not_exists.1 somebody
      have same : b.doomed (slot :: slots) = b.doomed slots := by
        apply List.filter_congr
        intro id _
        rw [List.any_cons, decide_eq_false (nobody id), Bool.false_or]
      rw [judge_of_forall_not sound nobody, ih sound oneSided, same]

/-- Where only one colony is in danger, the rule does the same on any cells, in any order, that
contain those of all the surrounded. -/
theorem foldl_judge_congr {b : Battle} {c : Colony} (sound : b.Sound) (oneSided : b.OneSided c)
    {slots slots' : List Nat}
    (covered : ∀ id slot, b.SurroundedAt id slot → slot ∈ slots ∧ slot ∈ slots') :
    slots.foldl judge b = slots'.foldl judge b := by
  have perm : (b.doomed slots).Perm (b.doomed slots') := by
    refine (List.perm_ext_iff_of_nodup (nodup_doomed _ _) (nodup_doomed _ _)).2 fun id => ?_
    rw [mem_doomed, mem_doomed]
    constructor
    · rintro ⟨slot, -, surrounded⟩
      exact ⟨slot, (covered id slot surrounded).2, surrounded⟩
    · rintro ⟨slot, -, surrounded⟩
      exact ⟨slot, (covered id slot surrounded).1, surrounded⟩
  rw [foldl_judge_eq_foldl_kill sound oneSided, foldl_judge_eq_foldl_kill sound oneSided,
    foldl_kill_perm perm]

theorem foldl_judge_of_calm {b : Battle} (sound : b.Sound) (calm : b.Calm) (slots : List Nat) :
    slots.foldl judge b = b := by
  induction slots with
  | nil => rfl
  | cons slot slots ih =>
    rw [List.foldl_cons, judge_of_forall_not sound fun id => calm id slot, ih]

/-! ### A step out of calm -/

section Step

variable {b : Battle} {id target : Nat} {ant : Ant} (sound : b.Sound) (calm : b.Calm)
  (present : b.ant? id = some ant) (alive : ant.alive) (free : b.isFree target)

theorem ant?_relocate_of_ne {j : Nat} (differ : id ≠ j) :
    (b.relocate id ant target).ant? j = b.ant? j := by
  rw [ant?_relocate, if_neg differ]

include present in
theorem ant?_relocate_self :
    (b.relocate id ant target).ant? id =
      some { ant with slot := target, resting := moveRest } := by
  rw [ant?_relocate, if_pos rfl, present]
  rfl

include present in
theorem slot_of_surroundedAt_self {slot : Nat}
    (surrounded : (b.relocate id ant target).SurroundedAt id slot) : slot = target := by
  obtain ⟨self, present', -, onSlot, -⟩ := surrounded
  rw [ant?_relocate_self present] at present'
  cases present'
  exact onSlot.symm

include sound present alive free

/-- Who stands somewhere after a step stood there before, or is the ant that stepped. -/
theorem occupant_before_step {s j : Nat}
    (named : ((b.relocate id ant target).cellAt s).occupant = some j) (differ : id ≠ j) :
    (b.cellAt s).occupant = some j := by
  rw [sound.occupant_relocate present alive free] at named
  split at named
  · exact absurd (Option.some.inj named) differ
  · split at named
    · cases named
    · exact named

/-- The ant that steps is no foe to its own colony. -/
theorem hasFoeOf_before_step {s : Nat}
    (foe : (b.relocate id ant target).hasFoeOf ant.colony s) : b.hasFoeOf ant.colony s := by
  obtain ⟨j, other, named, present', hostile⟩ := hasFoeOf_iff.1 foe
  have differ : id ≠ j := by
    rintro rfl
    rw [ant?_relocate_self present] at present'
    cases present'
    exact hostile rfl
  rw [ant?_relocate_of_ne differ] at present'
  exact hasFoeOf_iff.2
    ⟨j, other, occupant_before_step sound present alive free named differ, present', hostile⟩

include calm

/-- A step endangers nobody of the stepping ant's colony besides the ant itself. -/
theorem colony_of_surroundedAt {j slot : Nat} {other : Ant} (differ : id ≠ j)
    (present' : (b.relocate id ant target).ant? j = some other)
    (surrounded : (b.relocate id ant target).SurroundedAt j slot) :
    other.colony = ant.colony.foe := by
  rw [ant?_relocate_of_ne differ] at present'
  obtain ⟨other', present'', alive', onSlot, foes⟩ := surrounded
  have same := present''
  rw [ant?_relocate_of_ne differ, present'] at same
  cases same
  apply Colony.ne_iff_eq_foe.1
  intro friend
  apply calm j slot
  refine ⟨other, present', alive', onSlot, foes.trans ?_⟩
  refine adjacentFoes_mono rfl present' present'' rfl fun d foe => ?_
  rw [friend] at foe ⊢
  exact hasFoeOf_before_step sound present alive free foe

/-- A step endangers nobody but the ant itself and foes next to the cell that it enters. -/
theorem neighbor_of_surroundedAt (fits : ∀ slot ∈ b.layout.slots.map Prod.snd, slot < 2 ^ 64)
    {j slot : Nat} (differ : id ≠ j)
    (surrounded : (b.relocate id ant target).SurroundedAt j slot) :
    ∃ d, slot = b.layout.neighbor target d := by
  have moved := sound.relocate present alive free
  have ⟨other, present', alive', onSlot, _⟩ := surrounded
  have onMap : slot ∈ b.layout.slots.map Prod.snd := onSlot ▸ (moved.stands j other present' alive').1
  have looked : slot ∈ judged b.layout target := by
    by_contra unjudged
    exact calm j slot (surroundedAt_of_relocate (fits slot onMap) unjudged surrounded).2
  rcases List.mem_cons.1 looked with entered | beside
  · -- only the ant that steps stands on the cell that it enters
    have self : (b.relocate id ant target).ant? id = _ := ant?_relocate_self present
    exact absurd (moved.slot_inj self present' alive alive' (entered.symm.trans onSlot.symm)) differ
  · obtain ⟨d, -, rfl⟩ := List.mem_map.1 beside
    exact ⟨d, rfl⟩

/-- A look at the cell that was entered and around it, in whatever order, finds all the surrounded. -/
theorem mem_around_of_surroundedAt
    (fits : ∀ slot ∈ b.layout.slots.map Prod.snd, slot < 2 ^ 64) {directions : List Direction}
    (all : ∀ d, d ∈ directions) {j slot : Nat}
    (surrounded : (b.relocate id ant target).SurroundedAt j slot) :
    slot ∈ target :: directions.map (b.layout.neighbor target) := by
  by_cases same : id = j
  · subst same
    rw [slot_of_surroundedAt_self present surrounded]
    exact List.mem_cons_self
  · obtain ⟨d, rfl⟩ := neighbor_of_surroundedAt sound calm present alive free fits same surrounded
    exact List.mem_cons_of_mem _ (List.mem_map_of_mem (all d))

/-- If the ant that steps dies of it, calm returns. -/
theorem calm_kill_stepper (surrounded : (b.relocate id ant target).SurroundedAt id target) :
    ((b.relocate id ant target).kill id).Calm := by
  have moved := sound.relocate present alive free
  have thinned := thinned_kill (b.relocate id ant target) id
  have lasting := (lasting_relocate b id ant target).trans thinned.lasting
  have killed := moved.kill_of_surroundedAt surrounded
  have living {j : Nat} {other : Ant}
      (present' : ((b.relocate id ant target).kill id).ant? j = some other)
      (alive' : other.alive) : id ≠ j := by
    rintro rfl
    rw [ant?_kill (ant?_relocate_self present), if_pos rfl] at present'
    cases present'
    cases alive'
  intro j slot danger
  obtain ⟨other, present', alive', onSlot, foes⟩ := danger
  have differ := living present' alive'
  have formerly : b.ant? j = some other := by
    rwa [ant?_kill_of_ne differ, ant?_relocate_of_ne differ] at present'
  apply calm j slot
  refine ⟨other, formerly, alive', onSlot, foes.trans (lasting.adjacentFoes_le j fun d i named => ?_)⟩
  obtain ⟨standing, present'', alive'', -⟩ := killed.named _ i named
  exact occupant_before_step sound present alive free (thinned.occupant _ i named)
    (living present'' alive'')

theorem oneSided_of_spared (spared : ¬(b.relocate id ant target).SurroundedAt id target) :
    (b.relocate id ant target).OneSided ant.colony.foe := by
  intro j slot other surrounded present'
  by_cases same : id = j
  · subst same
    exact absurd (slot_of_surroundedAt_self present surrounded ▸ surrounded) spared
  · exact colony_of_surroundedAt sound calm present alive free same present' surrounded

/-- After a step the rule may look at the cell that was entered and then at any cells, in any order,
that contain those of all the surrounded. -/
theorem foldl_judge_after_step {rest : List Nat}
    (covered : ∀ j slot, (b.relocate id ant target).SurroundedAt j slot → slot ∈ target :: rest)
    (fits : ∀ slot ∈ b.layout.slots.map Prod.snd, slot < 2 ^ 64) :
    (target :: rest).foldl judge (b.relocate id ant target) =
      (b.relocate id ant target).judgeAround target := by
  have moved := sound.relocate present alive free
  rw [judgeAround_eq_foldl, judged, (lasting_relocate b id ant target).layout]
  by_cases dies : (b.relocate id ant target).SurroundedAt id target
  · have calmed := calm_kill_stepper sound calm present alive free dies
    have killed := moved.kill_of_surroundedAt dies
    rw [List.foldl_cons, List.foldl_cons, judge_of_surroundedAt moved dies,
      foldl_judge_of_calm killed calmed, foldl_judge_of_calm killed calmed]
  · apply foldl_judge_congr moved (oneSided_of_spared sound calm present alive free dies)
    intro j slot surrounded
    refine ⟨covered j slot surrounded, ?_⟩
    exact mem_around_of_surroundedAt sound calm present alive free fits Direction.mem_all surrounded

/-- A surrounded ant that steps is the only one to die of its step. -/
theorem fallen_of_surrounded (dies : (b.relocate id ant target).SurroundedAt id target) :
    (b.relocate id ant target).livingIds \
      ((b.relocate id ant target).judgeAround target).livingIds = {id} := by
  have moved := sound.relocate present alive free
  have calmed := calm_kill_stepper sound calm present alive free dies
  have self : id ∈ (b.relocate id ant target).livingIds :=
    ⟨_, ant?_relocate_self present, alive⟩
  rw [judgeAround_eq_foldl, judged, List.foldl_cons, judge_of_surroundedAt moved dies,
    foldl_judge_of_calm (moved.kill_of_surroundedAt dies) calmed, livingIds_kill,
    Set.sdiff_sdiff_cancel_left (Set.singleton_subset_iff.2 self)]

/-- Otherwise its surrounded foes next to it die, and nobody else. -/
theorem fallen_of_spared (fits : ∀ slot ∈ b.layout.slots.map Prod.snd, slot < 2 ^ 64)
    (spared : ¬(b.relocate id ant target).SurroundedAt id target) :
    (b.relocate id ant target).livingIds \
        ((b.relocate id ant target).judgeAround target).livingIds =
      {j | ∃ other d, (b.relocate id ant target).ant? j = some other ∧
        other.colony = ant.colony.foe ∧
        (b.relocate id ant target).SurroundedAt j (b.layout.neighbor target d)} := by
  have moved := sound.relocate present alive free
  have oneSided := oneSided_of_spared sound calm present alive free spared
  have doomed_subset : {j | j ∈ (b.relocate id ant target).doomed (judged b.layout target)} ⊆
      (b.relocate id ant target).livingIds := by
    intro j mem
    obtain ⟨slot, -, other, present', alive', -⟩ := mem_doomed.1 mem
    exact ⟨other, present', alive'⟩
  rw [judgeAround_eq_foldl, (lasting_relocate b id ant target).layout,
    foldl_judge_eq_foldl_kill moved oneSided, livingIds_foldl_kill,
    Set.sdiff_sdiff_cancel_left doomed_subset]
  ext j
  simp only [Set.mem_ofPred_eq, mem_doomed]
  constructor
  · rintro ⟨slot, -, surrounded⟩
    have ⟨other, present', _⟩ := surrounded
    have hostile := oneSided j slot other surrounded present'
    have differ : id ≠ j := by
      rintro rfl
      rw [ant?_relocate_self present] at present'
      cases present'
      exact Colony.foe_ne _ hostile.symm
    obtain ⟨d, rfl⟩ := neighbor_of_surroundedAt sound calm present alive free fits differ surrounded
    exact ⟨other, d, present', hostile, surrounded⟩
  · rintro ⟨other, d, -, -, surrounded⟩
    exact ⟨_, List.mem_cons_of_mem _ (List.mem_map_of_mem (Direction.mem_all d)), surrounded⟩

end Step

/-! ### All moments -/

/-- Let nobody be surrounded at some moment, and let an ant step to the free cell ahead. If the ant
is surrounded there, it alone dies of the step; otherwise exactly those of its foes next to it die
that are surrounded as soon as it has arrived. So the rule does what a look at every cell of the map
would do, in any order that begins with the cell entered, and the order in which it looks around that
cell does not matter. -/
theorem judging_is_rescan {w : World} {brains : PerColony Brain} {seed : Nat} {b s : Battle}
    (bounded : w.Bounded) (started : start w brains seed = .ok b) {n k : Nat}
    (reached : s = b.moment n k) (calm : s.Calm) {id target : Nat} {ant : Ant}
    (present : s.ant? id = some ant) (alive : ant.alive)
    (ahead : target = s.layout.neighbor ant.slot ant.facing) (free : s.isFree target) :
    let moved := s.relocate id ant target
    (∀ ifMoved ifBlocked, s.act id ant (.move ifMoved ifBlocked) =
      (moved.judgeAround target, ifMoved)) ∧
    (moved.SurroundedAt id target →
      moved.livingIds \ (moved.judgeAround target).livingIds = {id}) ∧
    (¬moved.SurroundedAt id target →
      moved.livingIds \ (moved.judgeAround target).livingIds =
        {j | ∃ other d, moved.ant? j = some other ∧ other.colony = ant.colony.foe ∧
          moved.SurroundedAt j (s.layout.neighbor target d)}) ∧
    (∀ rest, (target :: rest).Perm (s.layout.slots.map Prod.snd) →
      (target :: rest).foldl judge moved = moved.judgeAround target) ∧
    (∀ directions : List Direction, directions.Perm Direction.all →
      directions.foldl (fun b d => b.judge (b.layout.neighbor target d)) (moved.judge target) =
        moved.judgeAround target) := by
  have sound : s.Sound := reached ▸ sound_moment started n k
  have covers := (begun_of_start started).covers
  have same : s.layout = b.layout := reached ▸ (lasting_moment b n k).layout
  have fits : ∀ slot ∈ s.layout.slots.map Prod.snd, slot < 2 ^ 64 := by
    intro slot mem
    rw [same] at mem
    exact (covers.lt_size mem).trans (covers.size_lt_word bounded)
  have moved := sound.relocate present alive free
  intro after
  refine ⟨?_, ?_, ?_, ?_, ?_⟩
  · intro ifMoved ifBlocked
    rw [ahead] at free
    simp only [act, if_pos free, after, ahead]
  · exact fallen_of_surrounded sound calm present alive free
  · exact fallen_of_spared sound calm present alive free fits
  · intro rest perm
    refine foldl_judge_after_step sound calm present alive free (fun j slot surrounded => ?_) fits
    obtain ⟨other, present', alive', rfl, -⟩ := surrounded
    exact perm.mem_iff.2 (moved.stands j other present' alive').1
  · intro directions perm
    have layout : (after.judge target).layout = s.layout := layout_judge after target
    have all (d : Direction) : d ∈ directions := perm.mem_iff.2 (Direction.mem_all d)
    have looked : ∀ j slot, after.SurroundedAt j slot →
        slot ∈ target :: directions.map (s.layout.neighbor target) := fun _ _ surrounded =>
      mem_around_of_surroundedAt sound calm present alive free fits all surrounded
    rw [← foldl_judge_after_step sound calm present alive free looked fits, List.foldl_cons,
      ← layout]
    exact foldl_judge_map rfl target directions

/-- A black ant with red ants on four sides and a gap in the west, to which a fifth red ant is on its
way. -/
def closing : World where
  width := 4
  height := 4
  sites := [
    { place := ⟨0, 2⟩, terrain := .hill .red },
    { place := ⟨1, 2⟩, terrain := .clear },
    { place := ⟨2, 2⟩, terrain := .hill .black },
    { place := ⟨3, 2⟩, terrain := .hill .red },
    { place := ⟨1, 3⟩, terrain := .hill .red },
    { place := ⟨1, 1⟩, terrain := .hill .red },
    { place := ⟨2, 1⟩, terrain := .hill .red }]

/-- The gap is closed by the first step. -/
theorem closing_starts : ∃ b, start closing ⟨marcher, idler⟩ 1 = .ok b ∧
    (b.Calm ∧ b.ant? 0 = some (.fresh .red 13) ∧ 14 = b.layout.neighbor 13 0 ∧ b.isFree 14) ∧
    ¬(b.relocate 0 (.fresh .red 13) 14).SurroundedAt 0 14 ∧
    (b.relocate 0 (.fresh .red 13) 14).ant? 1 = some (.fresh .black 15) ∧
    (b.relocate 0 (.fresh .red 13) 14).SurroundedAt 1 (b.layout.neighbor 14 0) ∧
    [14, 20, 9, 16, 10, 15, 13].Perm (b.layout.slots.map Prod.snd) := by
  refine ⟨_, rfl, ?_, ?_, ?_, ?_, ?_⟩ <;> decide +kernel

theorem rescan_when_closing : closing.Bounded ∧ ∃ b, start closing ⟨marcher, idler⟩ 1 = .ok b ∧
    b.Calm ∧ b.ant? 0 = some (.fresh .red 13) ∧ b.isFree 14 ∧
    1 ∉ ((b.relocate 0 (.fresh .red 13) 14).judgeAround 14).livingIds ∧
    [14, 20, 9, 16, 10, 15, 13].foldl judge (b.relocate 0 (.fresh .red 13) 14) =
      (b.relocate 0 (.fresh .red 13) 14).judgeAround 14 := by
  have bounded : closing.Bounded := by decide
  obtain ⟨b, started, ⟨calm, present, ahead, free⟩, spared, foe, surrounded, perm⟩ := closing_starts
  have same : b = b.moment 0 0 := rfl
  obtain ⟨-, -, fallen, rescan, -⟩ :=
    judging_is_rescan bounded started same calm present rfl ahead free
  have dead : 1 ∈ _ := (fallen spared).ge ⟨.fresh .black 15, 0, foe, rfl, surrounded⟩
  exact ⟨bounded, b, started, calm, present, free, dead.2, rescan _ perm⟩

end Battle

end Formicary
