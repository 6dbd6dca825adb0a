/-
Module: Formicary.Proofs.Pace
Purpose: How fast ants are: who steps rests for fourteen rounds, and nobody gets further in some rounds
  than a step in every fifteen of them allows.
Main exports: Battle.order?, Battle.Pauses, Battle.Idles, Battle.Paced, Battle.paced_round,
  Ant.reach, Battle.speed_limit
-/
import Formicary.Proofs.Deaths
import Formicary.Proofs.Neighbours

namespace Formicary

namespace Battle

/-! ### Orders -/

/-- The instruction that ant `id` carries out if it is its turn; none if it is dead or rests. -/
def order? (b : Battle) (id : Nat) : Option Instruction := do
  let ant ← b.ant? id
  if ant.alive && ant.resting == 0 then (b.brains.get ant.colony).get? ant.state else none

theorem order?_eq_some_iff {b : Battle} {id : Nat} {i : Instruction} :
    b.order? id = some i ↔ ∃ ant, b.ant? id = some ant ∧ ant.alive ∧ ant.resting = 0 ∧
      (b.brains.get ant.colony).get? ant.state = some i := by
  simp only [order?, Option.bind_eq_bind, Option.bind_eq_some_iff, Option.ite_none_right_eq_some,
    Bool.and_eq_true, beq_iff_eq, and_assoc]

/-- In its turn ant `id` does nothing or rests, and carries out no instruction. -/
def Pauses (b : Battle) (id : Nat) : Prop :=
  b.takeTurn id = b ∨
    b.takeTurn id = b.changeAnt id fun a => { a with resting := a.resting - 1 }

theorem pauses_of_no_order {b : Battle} {id : Nat} (free : b.order? id = none) : b.Pauses id := by
  unfold Pauses
  have turn := turn_takeTurn b id
  generalize b.takeTurn id = b' at turn ⊢
  cases turn with
  | idle => exact .inl rfl
  | rest => exact .inr rfl
  | obey present alive rested told =>
    rw [order?_eq_some_iff.2 ⟨_, present, alive, rested, told⟩] at free
    cases free

theorem order?_of_stride? {b : Battle} {id target : Nat} (steps : b.stride? id = some target) :
    (b.order? id).isSome := by
  obtain ⟨ant, ifMoved, ifBlocked, present, alive, rested, told, -⟩ := stride?_eq_some_iff.1 steps
  rw [order?_eq_some_iff.2 ⟨ant, present, alive, rested, told⟩]
  rfl

/-! ### Between two turns of an ant -/

/-- What happens to an ant while others have their turns: nothing, or its death. -/
def Idles (b b' : Battle) (id : Nat) : Prop :=
  ∀ ant, b.ant? id = some ant → ∃ ant', b'.ant? id = some ant' ∧ (ant' = ant ∨ ant' = ant.fall)

namespace Idles

theorem refl (b : Battle) (id : Nat) : Idles b b id :=
  fun ant present => ⟨ant, present, .inl rfl⟩

theorem trans {a b c : Battle} {id : Nat} (first : Idles a b id) (second : Idles b c id) :
    Idles a c id := by
  intro ant present
  obtain ⟨ant', present', kept⟩ := first ant present
  obtain ⟨ant'', present'', kept'⟩ := second ant' present'
  refine ⟨ant'', present'', ?_⟩
  rcases kept with rfl | rfl <;> rcases kept' with rfl | rfl <;> simp

end Idles

theorem idles_takeTurn {b : Battle} {j id : Nat} (differ : j ≠ id) : Idles b (b.takeTurn j) id := by
  intro ant present
  rw [ant?_takeTurn_of_ne differ, present]
  split
  · exact ⟨ant.fall, rfl, .inr rfl⟩
  · exact ⟨ant, rfl, .inl rfl⟩

/-- In a part of a round without its turn an ant idles. -/
theorem idles_moment {b : Battle} {n k k' id : Nat} (le : k ≤ k') (apart : id < k ∨ k' ≤ id) :
    Idles (b.moment n k) (b.moment n k') id := by
  induction k', le using Nat.le_induction with
  | base => exact .refl _ _
  | succ k' le ih =>
    rw [moment_succ]
    exact (ih (by omega)).trans (idles_takeTurn (by omega))

/-- From its turn to some moment before its next turn an ant idles. -/
theorem idles_around {b : Battle} {n k id : Nat} (isAnt : id < b.ants.size) (le : k ≤ id) :
    Idles (b.moment n (id + 1)) (b.moment (n + 1) k) id := by
  have rest : Idles (b.moment n (id + 1)) (b.moment n b.ants.size) id :=
    idles_moment isAnt (.inl (Nat.lt_succ_self id))
  have pass : Idles (b.moment n b.ants.size) (b.moment (n + 1) 0) id := by
    rw [moment_next]
    exact .refl _ _
  exact (rest.trans pass).trans (idles_moment (Nat.zero_le k) (.inr le))

/-! ### Rounds -/

/-- What a round makes of an ant, by the slot to which the ant steps in it. -/
inductive Paced (l : Layout) (a a' : Ant) : Option Nat → Prop where
  | still (slot : a'.slot = a.slot) (rest : a'.alive → a.alive ∧ a'.resting = a.resting - 1) :
      Paced l a a' none
  | step {target : Nat} (alive : a.alive) (rested : a.resting = 0)
      (near : l.distance a.slot a'.slot = 1) (rest : a'.alive → a'.resting = moveRest) :
      Paced l a a' (some target)

section Round

variable {b : Battle}

theorem paced_takeTurn {id : Nat} {a : Ant} (sound : b.Sound) (faithful : b.layout.Faithful)
    (present : b.ant? id = some a) :
    ∃ a', (b.takeTurn id).ant? id = some a' ∧ Paced b.layout a a' (b.stride? id) := by
  obtain ⟨a', present', turn⟩ := ownTurn_takeTurn present
  refine ⟨a', present', ?_⟩
  have near {target : Nat} (steps : b.stride? id = some target) :
      b.layout.distance a.slot target = 1 := by
    obtain ⟨ant, -, -, formerly, alive, -, -, rfl, -⟩ := stride?_eq_some_iff.1 steps
    cases present.symm.trans formerly
    exact faithful.distance_neighbor (sound.stands id a present alive).1 a.facing
  cases turn with
  | dead dead still =>
    rw [still]
    exact .still rfl fun alive => absurd alive (by simp [dead])
  | rest alive tired still =>
    rw [still]
    exact .still rfl fun _ => ⟨alive, rfl⟩
  | stay alive rested still facing laden state =>
    rw [still]
    exact .still rfl fun _ => ⟨alive, by simp [rested]⟩
  | step alive rested steps state spared =>
    rw [steps]
    exact .step alive rested (near steps) fun _ => rfl
  | fall alive rested steps state struck =>
    rw [steps]
    exact .step alive rested (near steps) fun _ => rfl

end Round

namespace Paced

variable {l : Layout} {a a' a'' : Ant} {stride : Option Nat}

/-- Who idles before its turn has as much of a round as others. -/
theorem of_idle (kept : a' = a ∨ a' = a.fall) (paced : Paced l a' a'' stride) :
    Paced l a a'' stride := by
  rcases kept with rfl | rfl
  · exact paced
  · cases paced with
    | still slot rest => exact .still slot fun alive => absurd (rest alive).1 (by simp [Ant.fall])
    | step alive => cases alive

theorem idle (paced : Paced l a a' stride) (kept : a'' = a' ∨ a'' = a'.fall) :
    Paced l a a'' stride := by
  rcases kept with rfl | rfl
  · exact paced
  · cases paced with
    | still slot rest => exact .still slot fun risen => by cases risen
    | step alive rested near rest => exact .step alive rested near fun risen => by cases risen

end Paced

section Moments

variable {w : World} {brains : PerColony Brain} {seed : Nat} {b : Battle} (bounded : w.Bounded)
  (started : start w brains seed = .ok b)

include bounded started

/-- A round, from any moment up to an ant's turn to the same moment of the next round. -/
theorem paced_round {n k id : Nat} {a : Ant} (le : k ≤ id)
    (present : (b.moment n k).ant? id = some a) :
    ∃ a', (b.moment (n + 1) k).ant? id = some a' ∧
      Paced b.layout a a' ((b.moment n id).stride? id) := by
  have layout := (lasting_moment b n id).layout
  have faithful : (b.moment n id).layout.Faithful :=
    layout ▸ (begun_of_start started).covers.faithful bounded
  obtain ⟨before, atTurn, kept⟩ := idles_moment le (.inr (Nat.le_refl id)) a present
  obtain ⟨after, hasActed, paced⟩ := paced_takeTurn (sound_moment started n id) faithful atTurn
  rw [← moment_succ] at hasActed
  obtain ⟨a', present', kept'⟩ := idles_around (lt_size_of_moment present) le after hasActed
  rw [layout] at paced
  exact ⟨a', present', (paced.idle kept').of_idle kept⟩

/-- After a step the rest of an ant goes down by one a round. -/
theorem resting_after_stride {r id target : Nat} (steps : (b.moment r id).stride? id = some target)
    {j : Nat} (soon : j ≤ moveRest) {a : Ant} (present : (b.moment (r + 1 + j) id).ant? id = some a)
    (alive : a.alive) : a.resting = moveRest - j := by
  induction j generalizing a with
  | zero =>
    obtain ⟨former, -, -, formerly, -⟩ := stride?_eq_some_iff.1 steps
    obtain ⟨a', present', paced⟩ := paced_round bounded started (Nat.le_refl id) formerly
    cases present.symm.trans present'
    rw [steps] at paced
    cases paced with
    | step _ _ _ rest => exact rest alive
  | succ j ih =>
    obtain ⟨former, formerly⟩ := exists_ant_moment (lt_size_of_moment present) (r + 1 + j) id
    obtain ⟨a', present', paced⟩ := paced_round bounded started (Nat.le_refl id) formerly
    cases present.symm.trans present'
    have earlier := ih (Nat.le_of_succ_le soon) formerly
    generalize (b.moment (r + 1 + j) id).stride? id = stride at paced
    cases paced with
    | still slot rest =>
      obtain ⟨wasAlive, resting⟩ := rest alive
      rw [resting, earlier wasAlive, Nat.sub_sub]
    | step wasAlive rested =>
      -- who steps does not rest, but this ant still does
      have tired := earlier wasAlive
      omega

/-- Who has stepped has no order for fourteen rounds. -/
theorem no_order_after_stride {r r' id target : Nat}
    (steps : (b.moment r id).stride? id = some target) (later : r < r') (soon : r' ≤ r + moveRest) :
    (b.moment r' id).order? id = none := by
  rw [Option.eq_none_iff_forall_ne_some]
  intro i ordered
  obtain ⟨j, rfl⟩ := Nat.exists_eq_add_of_le later
  obtain ⟨a, present, alive, rested, -⟩ := order?_eq_some_iff.1 ordered
  have tired := resting_after_stride bounded started steps (j := j) (by omega) present alive
  omega

end Moments

end Battle

/-! ### How far ants get -/

/-- How many steps at most an ant has before it in some rounds. -/
def Ant.reach (a : Ant) (k : Nat) : Nat :=
  if a.alive then (k - a.resting + moveRest) / (moveRest + 1) else 0

theorem Ant.reach_le (a : Ant) (k : Nat) : a.reach k ≤ (k + moveRest) / (moveRest + 1) := by
  rw [reach]
  split
  · exact Nat.div_le_div_right (by omega)
  · exact Nat.zero_le _

namespace Battle

/-- The steps of a round are taken from those that an ant has before it. -/
theorem Paced.distance_add_reach_le {l : Layout} {a a' : Ant} {stride : Option Nat}
    (paced : Paced l a a' stride) (k : Nat) :
    l.distance a.slot a'.slot + a'.reach k ≤ a.reach (k + 1) := by
  cases paced with
  | still slot rest =>
    rw [slot, Frame.distance_self, Nat.zero_add, Ant.reach]
    split
    · rename_i alive
      obtain ⟨wasAlive, resting⟩ := rest alive
      rw [Ant.reach, if_pos wasAlive, resting]
      exact Nat.div_le_div_right (by omega)
    · exact Nat.zero_le _
  | step alive rested near rest =>
    -- the rest after the step uses up what is left of the fifteen rounds that the step is paid from
    rw [near, Ant.reach, Ant.reach, if_pos alive, rested]
    split
    · rename_i survives
      rw [rest survives]
      simp only [moveRest]
      omega
    · simp only [moveRest]
      omega

section Moments

variable {w : World} {brains : PerColony Brain} {seed : Nat} {b : Battle} (bounded : w.Bounded)
  (started : start w brains seed = .ok b)

include bounded started

theorem distance_le_reach {n id : Nat} {a : Ant} (present : (b.moment n 0).ant? id = some a)
    (k : Nat) :
    ∃ a', (b.moment (n + k) 0).ant? id = some a' ∧
      b.layout.distance a.slot a'.slot ≤ a.reach k := by
  induction k generalizing n a with
  | zero => exact ⟨a, present, by simp⟩
  | succ k ih =>
    obtain ⟨a', present', paced⟩ := paced_round bounded started (Nat.zero_le id) present
    obtain ⟨a'', present'', far⟩ := ih present'
    rw [Nat.succ_add_eq_add_succ] at present''
    refine ⟨a'', present'', ?_⟩
    calc b.layout.distance a.slot a''.slot
        ≤ b.layout.distance a.slot a'.slot + b.layout.distance a'.slot a''.slot :=
          Frame.distance_triangle _ _ _ _
      _ ≤ b.layout.distance a.slot a'.slot + a'.reach k := Nat.add_le_add_left far _
      _ ≤ a.reach (k + 1) := paced.distance_add_reach_le k

end Moments

/-- No ant steps more often than every fifteen rounds: who steps in some round carries out no
instruction in the fourteen rounds after it, and in the round after these it carries out that of its
state if it is alive on its turn. So in `k` rounds an ant gets no further than the number of fifteens,
whole or begun, that are in `k`. All places are so near that the distances can be told in words of
32 bits. -/
theorem speed_limit {w : World} {brains : PerColony Brain} {seed : Nat} {b : Battle}
    (close : w.Close) (started : start w brains seed = .ok b) (id : Nat) :
    (∀ r, ((b.moment r id).stride? id).isSome →
      (∀ r', r < r' → r' < r + 15 →
        (b.moment r' id).order? id = none ∧ (b.moment r' id).Pauses id) ∧
      (∀ s a, s = b.moment (r + 15) id → s.ant? id = some a → a.alive →
        ∃ i, s.order? id = some i ∧ (s.brains.get a.colony).get? a.state = some i ∧
          s.takeTurn id = (s.act id a i).1.changeAnt id fun a' =>
            { a' with state := (s.act id a i).2 }) ∧
      ∀ r', r < r' → ((b.moment r' id).stride? id).isSome → r + 15 ≤ r') ∧
    ∀ n a, (playRounds n b).ant? id = some a → (b.layout.hexAt a.slot).Close ∧
      ∀ k, ∃ a', (playRounds (n + k) b).ant? id = some a' ∧
        b.layout.distance a.slot a'.slot ≤ (k + 14) / 15 := by
  have bounded := close.bounded
  constructor
  · intro r strides
    obtain ⟨target, steps⟩ := Option.isSome_iff_exists.1 strides
    have without {r' : Nat} (later : r < r') (soon : r' < r + 15) :
        (b.moment r' id).order? id = none :=
      no_order_after_stride bounded started steps later (Nat.le_of_lt_succ soon)
    refine ⟨fun r' later soon => ?rests, ?again, fun r' later strides' => ?apart⟩
    case rests =>
      have free := without later soon
      exact ⟨free, pauses_of_no_order free⟩
    case again =>
      rintro s a rfl present alive
      have rested : a.resting = 0 :=
        (resting_after_stride bounded started steps (Nat.le_refl moveRest)
          (by rwa [Nat.add_assoc]) alive).trans (Nat.sub_self _)
      obtain ⟨i, told⟩ := (sound_moment started (r + 15) id).exists_told present
      exact ⟨i, order?_eq_some_iff.2 ⟨a, present, alive, rested, told⟩, told,
        takeTurn_of_told present alive rested told⟩
    case apart =>
      by_contra soon
      obtain ⟨target', steps'⟩ := Option.isSome_iff_exists.1 strides'
      have ordered := order?_of_stride? steps'
      rw [without later (Nat.lt_of_not_le soon)] at ordered
      cases ordered
  · intro n a present
    refine ⟨close_moment close started (n := n) (k := 0) present, fun k => ?_⟩
    obtain ⟨a', present', far⟩ := distance_le_reach bounded started (n := n) present k
    exact ⟨a', present', far.trans (a.reach_le k)⟩

/-- The ant whose step ends the siege rests from the second round to the fifteenth, and is at most two
steps away after thirty rounds. -/
theorem marcher_rests : siege.Close ∧ ∃ b a, start siege ⟨marcher, idler⟩ 1 = .ok b ∧
    ((b.moment 0 5).stride? 5).isSome ∧
    (b.moment 14 5).order? 5 = none ∧ (b.moment 14 5).Pauses 5 ∧
    (playRounds 0 b).ant? 5 = some a ∧ ∃ a', (playRounds (0 + 30) b).ant? 5 = some a' ∧
      b.layout.distance a.slot a'.slot ≤ 2 := by
  have close : siege.Close := by decide
  obtain ⟨b, a, started, strides, present⟩ :
      ∃ b a, start siege ⟨marcher, idler⟩ 1 = .ok b ∧ ((b.moment 0 5).stride? 5).isSome ∧
        (playRounds 0 b).ant? 5 = some a := by
    refine ⟨_, _, rfl, ?_, rfl⟩
    decide +kernel
  obtain ⟨rests, gets⟩ := speed_limit close started 5
  obtain ⟨free, resting⟩ := (rests 0 strides).1 14 (by decide) (by decide)
  exact ⟨close, b, a, started, strides, free, resting, present, (gets 0 a present).2 30⟩

end Battle

end Formicary
