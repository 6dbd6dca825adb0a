/-
Module: Formicary.Proofs.Seeds
Purpose: Of a seed only the lowest thirty bits count, and only where an ant flips.
Main exports: Dice.ofSeed_inj, WideDice.ofSeed_inj, Battle.tosses, Battle.withDice,
  Battle.takeTurn_withDice, Battle.takeTurn_withSeed, Battle.playRounds_withDice,
  Battle.playRounds_withSeed, Battle.seed_counts_in_flips
-/
import Mathlib.Data.Nat.ModEq
import Formicary.Proofs.Course
import Formicary.Proofs.Start
import Formicary.Proofs.WideDice

namespace Formicary

/-! ### Seeds that start the same dice -/

namespace Dice

/-- A step can be taken back, for the multiplier is odd. -/
theorem advance_injective : Function.Injective advance := by
  intro d e same
  have same := congrArg (fun d => d.state.toNat) same
  simp only [toNat_advance] at same
  have scaled : 22695477 * d.state.toNat ≡ 22695477 * e.state.toNat [MOD 2 ^ 30] :=
    Nat.ModEq.add_right_cancel' 1 same
  have states := Nat.ModEq.cancel_left_of_coprime (by decide) scaled
  exact ext_toNat (states.eq_of_lt_of_lt (BitVec.isLt _) (BitVec.isLt _))

theorem ofSeed_inj {s t : Nat} : ofSeed s = ofSeed t ↔ s ≡ t [MOD 2 ^ 30] := by
  have passed : ofSeed s = ofSeed t ↔
      Dice.mk (BitVec.ofNat 30 s) = Dice.mk (BitVec.ofNat 30 t) := by
    rw [ofSeed, ofSeed, advance_injective.eq_iff, advance_injective.eq_iff,
      advance_injective.eq_iff]
  rw [passed, mk.injEq, ← BitVec.toNat_inj, BitVec.toNat_ofNat, BitVec.toNat_ofNat, Nat.ModEq]

end Dice

theorem WideDice.ofSeed_inj {s t : UInt64} :
    ofSeed s = ofSeed t ↔ s.toNat ≡ t.toNat [MOD 2 ^ 30] := by
  rw [← Dice.ofSeed_inj]
  constructor
  · intro same
    apply Dice.ext_toNat
    rw [← toNat_ofSeed, ← toNat_ofSeed, same]
  · intro same
    apply ext_toNat
    rw [toNat_ofSeed, toNat_ofSeed, same]

/-- Whether an instruction is carried out with the help of the dice. -/
def Instruction.isFlip : Instruction → Bool
  | .flip _ _ _ => true
  | _ => false

namespace Battle

/-- Whether ant `id` flips if it is its turn. -/
def tosses (b : Battle) (id : Nat) : Bool :=
  (b.ant? id).any fun ant => ant.alive && ant.resting == 0 &&
    ((b.brains.get ant.colony).get? ant.state).any Instruction.isFlip

/-- The same battle with another seed and other dice. -/
def withDice (b : Battle) (seed : Nat) (dice : Dice) : Battle := { b with seed, dice }

/-! ### The surround rule -/

section Rule

variable (b : Battle) (seed : Nat) (dice : Dice)

theorem kill_withDice (id : Nat) :
    (b.withDice seed dice).kill id = (b.kill id).withDice seed dice := by
  have same : (b.withDice seed dice).ant? id = b.ant? id := rfl
  rw [kill, kill, same]
  cases b.ant? id with
  | none => rfl
  | some ant => rfl

theorem judge_withDice (slot : Nat) :
    (b.withDice seed dice).judge slot = (b.judge slot).withDice seed dice := by
  have cell : (b.withDice seed dice).cellAt slot = b.cellAt slot := rfl
  have foes (id : Nat) : (b.withDice seed dice).adjacentFoes slot id = b.adjacentFoes slot id := rfl
  simp only [judge, cell, foes]
  cases (b.cellAt slot).occupant with
  | none => rfl
  | some id =>
    dsimp only
    split
    · exact kill_withDice b seed dice id
    · rfl

theorem judgeAround_withDice (slot : Nat) :
    (b.withDice seed dice).judgeAround slot = (b.judgeAround slot).withDice seed dice := by
  have fold (slots : List Nat) (b : Battle) :
      slots.foldl judge (b.withDice seed dice) = (slots.foldl judge b).withDice seed dice := by
    induction slots generalizing b with
    | nil => rfl
    | cons slot slots ih => rw [List.foldl_cons, List.foldl_cons, judge_withDice, ih]
  rw [judgeAround_eq_foldl, judgeAround_eq_foldl]
  exact fold _ b

end Rule

/-! ### Turns -/

section Turn

variable {b : Battle} {id : Nat}

/-- An instruction that is no flip has the same effect with other dice, and leaves them alone. -/
theorem act_withDice (seed : Nat) (dice : Dice) (ant : Ant) {i : Instruction}
    (still : i.isFlip = false) :
    (b.withDice seed dice).act id ant i =
      ((b.act id ant i).1.withDice seed dice, (b.act id ant i).2) := by
  cases i with
  | sense gaze ifTrue ifFalse condition =>
    have same : (b.withDice seed dice).holds ant.colony
          (sensedSlot (b.withDice seed dice).layout ant gaze) condition =
        b.holds ant.colony (sensedSlot b.layout ant gaze) condition := by
      cases condition <;> rfl
    simp only [act, same]
    split <;> rfl
  | mark marker next => rfl
  | unmark marker next => rfl
  | pickUp ifTaken ifNot =>
    have cell : (b.withDice seed dice).cellAt ant.slot = b.cellAt ant.slot := rfl
    simp only [act, cell]
    split <;> rfl
  | drop next =>
    simp only [act]
    split <;> rfl
  | turn rotation next => rfl
  | move ifMoved ifBlocked =>
    have target : (b.withDice seed dice).layout.neighbor ant.slot ant.facing =
      b.layout.neighbor ant.slot ant.facing := rfl
    have free (s : Nat) : (b.withDice seed dice).isFree s = b.isFree s := rfl
    have step (s : Nat) : (b.withDice seed dice).relocate id ant s =
      (b.relocate id ant s).withDice seed dice := rfl
    simp only [act, target, free, step, judgeAround_withDice]
    by_cases ahead : b.isFree (b.layout.neighbor ant.slot ant.facing)
    · simp only [if_pos ahead]
    · simp only [if_neg ahead]
  | flip odds ifZero ifOther => cases still

/-- A flip takes no notice of the seed. -/
theorem act_flip_withDice (seed : Nat) (ant : Ant) (odds : Nat) (ifZero ifOther : State) :
    (b.withDice seed b.dice).act id ant (.flip odds ifZero ifOther) =
      ((b.act id ant (.flip odds ifZero ifOther)).1.withDice seed
        (b.act id ant (.flip odds ifZero ifOther)).1.dice,
        (b.act id ant (.flip odds ifZero ifOther)).2) := by
  have same : (b.withDice seed b.dice).dice = b.dice := rfl
  simp only [act, same]
  generalize b.dice.roll odds = roll
  rfl

/-- What an ant does that tosses. -/
theorem tosses_iff :
    b.tosses id ↔ ∃ ant odds ifZero ifOther, b.ant? id = some ant ∧ ant.alive ∧ ant.resting = 0 ∧
      (b.brains.get ant.colony).get? ant.state = some (.flip odds ifZero ifOther) := by
  have flips (i : Instruction) :
      i.isFlip ↔ ∃ odds ifZero ifOther, i = .flip odds ifZero ifOther := by
    cases i <;> simp [Instruction.isFlip]
  simp only [tosses, Option.any_eq_true, Bool.and_eq_true, beq_iff_eq, flips]
  constructor
  · rintro ⟨ant, present, ⟨alive, rested⟩, i, told, odds, ifZero, ifOther, rfl⟩
    exact ⟨ant, odds, ifZero, ifOther, present, alive, rested, told⟩
  · rintro ⟨ant, odds, ifZero, ifOther, present, alive, rested, told⟩
    exact ⟨ant, present, ⟨alive, rested⟩, _, told, odds, ifZero, ifOther, rfl⟩

/-- The turn of an ant that does not flip is the same with other dice, and leaves them alone. -/
theorem takeTurn_withDice (seed : Nat) (dice : Dice) (still : b.tosses id = false) :
    (b.withDice seed dice).takeTurn id = (b.takeTurn id).withDice seed dice := by
  have same : (b.withDice seed dice).ant? id = b.ant? id := rfl
  have brains : (b.withDice seed dice).brains = b.brains := rfl
  simp only [takeTurn, same, brains]
  cases present : b.ant? id with
  | none => rfl
  | some ant =>
    dsimp only
    split
    · rfl
    · rename_i dead
      split
      · rfl
      · rename_i tired
        cases told : (b.brains.get ant.colony).get? ant.state with
        | none => rfl
        | some i =>
          have noFlip : i.isFlip = false := by
            have alive : ant.alive := by simpa using dead
            have rested : ant.resting = 0 := Nat.eq_zero_of_not_pos tired
            simpa [tosses, present, alive, rested, told] using still
          simp only [act_withDice seed dice ant noFlip]
          rfl

/-- A turn without a flip leaves the dice alone. -/
theorem dice_takeTurn (still : b.tosses id = false) : (b.takeTurn id).dice = b.dice := by
  have turn := congrArg Battle.dice (takeTurn_withDice b.seed b.dice still)
  have same : b.withDice b.seed b.dice = b := rfl
  rw [same] at turn
  exact turn

/-- A turn takes no notice of the seed. -/
theorem takeTurn_withSeed (seed : Nat) :
    (b.withDice seed b.dice).takeTurn id =
      (b.takeTurn id).withDice seed (b.takeTurn id).dice := by
  cases flips : b.tosses id with
  | false => rw [takeTurn_withDice seed b.dice flips, dice_takeTurn flips]
  | true =>
    obtain ⟨ant, odds, ifZero, ifOther, present, alive, rested, told⟩ := tosses_iff.1 flips
    rw [takeTurn_of_told present alive rested told,
      takeTurn_of_told (b := b.withDice seed b.dice) present alive rested told,
      act_flip_withDice]
    rfl

end Turn

/-! ### Moments -/

section Moments

variable {b : Battle}

/-- A battle takes no notice of its seed once its dice are there. -/
theorem playRounds_withSeed (seed : Nat) (n : Nat) :
    playRounds n (b.withDice seed b.dice) =
      (playRounds n b).withDice seed (playRounds n b).dice :=
  playRounds_comm (g := fun b => b.withDice seed b.dice) (fun _ _ => takeTurn_withSeed seed)
    (fun _ => rfl) (fun _ => rfl) n b

/-- As long as nobody flips, a battle takes the same course with other dice. -/
theorem playRounds_withDice (seed : Nat) (dice : Dice) {n : Nat}
    (still : ∀ m < n, ∀ id < b.ants.size, (b.moment m id).tosses id = false) :
    playRounds n (b.withDice seed dice) = (playRounds n b).withDice seed dice := by
  induction n with
  | zero => rfl
  | succ n ih =>
    have before := ih fun m less => still m (Nat.lt_succ_of_lt less)
    have turns : ∀ k ≤ b.ants.size,
        (b.withDice seed dice).moment n k = (b.moment n k).withDice seed dice := by
      intro k le
      induction k with
      | zero => exact before
      | succ k turn =>
        rw [moment_succ, moment_succ, turn (Nat.le_of_succ_le le),
          takeTurn_withDice seed dice (still n (Nat.lt_succ_self n) k le)]
    have ends := moment_next (b.withDice seed dice) n
    have size : (b.withDice seed dice).ants.size = b.ants.size := rfl
    rw [size, turns b.ants.size (Nat.le_refl _)] at ends
    calc playRounds (n + 1) (b.withDice seed dice)
        = _ := ends
      _ = (b.moment (n + 1) 0).withDice seed dice := by rw [moment_next]; rfl

end Moments

/-! ### Two seeds -/

/-- Two battles with the same cells, the same ants, dead ones included, and the same account of the
food. -/
structure SameBoard (b b' : Battle) : Prop where
  cells : b'.cells = b.cells
  ants : b'.ants = b.ants
  ledger : b'.ledger = b.ledger

theorem sameBoard_withDice (b : Battle) (seed : Nat) (dice : Dice) :
    b.SameBoard (b.withDice seed dice) := ⟨rfl, rfl, rfl⟩

/-- With another seed a battle begins with other dice at most. -/
theorem start_withDice {w : World} {brains : PerColony Brain} {s : Nat} {b : Battle}
    (started : start w brains s = .ok b) (t : Nat) :
    start w brains t = .ok (b.withDice t (.ofSeed t)) := by
  obtain ⟨l, built, rfl⟩ := start_eq_ok_iff.1 started
  exact start_eq_ok_iff.2 ⟨l, built, rfl⟩

/-- Seeds start the same dice exactly if their lowest thirty bits are the same, also on words of 64
bits. With such seeds a battle has the same board and the same dice after every round. With any two
seeds it has the same board after every round until an ant flips. -/
theorem seed_counts_in_flips (s t : UInt64) :
    (WideDice.ofSeed s = WideDice.ofSeed t ↔ s.toNat ≡ t.toNat [MOD 2 ^ 30]) ∧
      (Dice.ofSeed s.toNat = Dice.ofSeed t.toNat ↔ s.toNat ≡ t.toNat [MOD 2 ^ 30]) ∧
      ∀ {w : World} {brains : PerColony Brain} {b : Battle}, start w brains s.toNat = .ok b →
        ∃ b', start w brains t.toNat = .ok b' ∧
          (s.toNat ≡ t.toNat [MOD 2 ^ 30] → ∀ n,
            (playRounds n b).SameBoard (playRounds n b') ∧
              (playRounds n b').dice = (playRounds n b).dice) ∧
          ∀ n, (∀ m < n, ∀ id < b.ants.size, (b.moment m id).tosses id = false) →
            ∀ m ≤ n, (playRounds m b).SameBoard (playRounds m b') := by
  refine ⟨WideDice.ofSeed_inj, Dice.ofSeed_inj, ?_⟩
  intro w brains b started
  refine ⟨_, start_withDice started t.toNat, ?congruent, ?still⟩
  case congruent =>
    intro congruent n
    have dice : b.dice = .ofSeed t.toNat := by
      rw [(brains_of_start started).2, Dice.ofSeed_inj.2 congruent]
    rw [← dice, playRounds_withSeed]
    exact ⟨sameBoard_withDice _ _ _, rfl⟩
  case still =>
    intro n still m le
    rw [playRounds_withDice _ _ fun m' less => still m' (Nat.lt_of_lt_of_le less le)]
    exact sameBoard_withDice _ _ _

/-- A brain that tries to step and then flips. -/
def gambler : Brain where
  instructions := #[.move 1 1, .flip 2 0 1]
  size_pos := by decide
  successors_lt := by decide

/-- In the first round nobody flips, and in the second the seed begins to count. -/
theorem siege_of_gamblers : ∃ b b' b'', start siege ⟨gambler, gambler⟩ (1 : UInt64).toNat = .ok b ∧
    start siege ⟨gambler, gambler⟩ (1073741825 : UInt64).toNat = .ok b' ∧
    start siege ⟨gambler, gambler⟩ (2 : UInt64).toNat = .ok b'' ∧
    (playRounds 5 b).SameBoard (playRounds 5 b') ∧
    (playRounds 1 b).SameBoard (playRounds 1 b'') ∧
    (playRounds 3 b'').ants ≠ (playRounds 3 b).ants := by
  obtain ⟨b, started, still, b'', started'', differ⟩ :
      ∃ b, start siege ⟨gambler, gambler⟩ (1 : UInt64).toNat = .ok b ∧
        (∀ m < 1, ∀ id < b.ants.size, (b.moment m id).tosses id = false) ∧
        ∃ b'', start siege ⟨gambler, gambler⟩ (2 : UInt64).toNat = .ok b'' ∧
          (playRounds 3 b'').ants ≠ (playRounds 3 b).ants := by
    refine ⟨_, rfl, ?_, _, rfl, ?_⟩
    · decide +kernel
    · decide +kernel
  obtain ⟨-, -, congruently⟩ := seed_counts_in_flips 1 1073741825
  obtain ⟨b', started', same, -⟩ := congruently started
  obtain ⟨-, -, otherwise⟩ := seed_counts_in_flips 1 2
  obtain ⟨other, startedOther, -, unflipped⟩ := otherwise started
  obtain rfl : b'' = other := Except.ok.inj (started''.symm.trans startedOther)
  exact ⟨b, b', b'', started, started', started'', (same (by decide) 5).1,
    unflipped 1 still 1 (Nat.le_refl 1), differ⟩

end Battle

end Formicary
