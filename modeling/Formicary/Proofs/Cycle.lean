/-
Module: Formicary.Proofs.Cycle
Purpose: The generator goes round through all its states, and how often each number is rolled on the
  way.
Main exports: two_pow_dvd_geomSum_iff, Dice.toNat_iterate_advance, Dice.isPeriodicPt_advance_iff,
  Dice.existsUnique_iterate_advance, Dice.count_rolls, Dice.full_cycle_with_known_odds
-/
import Mathlib
import Formicary.Proofs.WideDice

namespace Formicary

open Function (IsPeriodicPt minimalPeriod)

/-! ### Sums of powers and blocks of numbers -/

/-- Where `a` leaves one when divided by four, two divides a sum of powers of `a` as often as it
divides the number of its terms. -/
theorem two_pow_dvd_geomSum_iff {a : Nat} (above : 1 < a) (rest : a ≡ 1 [MOD 4]) (k n : Nat) :
    2 ^ k ∣ ∑ i ∈ Finset.range n, a ^ i ↔ 2 ^ k ∣ n := by
  have four : (4 : Int) ∣ a - 1 := by
    rw [← Int.modEq_iff_dvd]
    exact_mod_cast rest.symm
  have odd : ¬(2 : Int) ∣ a := by omega
  have finite : emultiplicity (2 : Int) (a - 1) ≠ ⊤ := by
    rw [← finiteMultiplicity_iff_emultiplicity_ne_top, Int.finiteMultiplicity_iff]
    omega
  have powers : emultiplicity (2 : Int) (∑ i ∈ Finset.range n, (a : Int) ^ i) =
      emultiplicity (2 : Int) n := by
    have lifted := Int.two_pow_sub_pow' (x := a) (y := 1) n four odd
    rw [one_pow, ← mul_geom_sum, emultiplicity_mul Int.prime_two] at lifted
    exact ENat.add_right_injective_of_ne_top finite lifted
  have casts (m : Nat) : 2 ^ k ∣ m ↔ (2 : Int) ^ k ∣ m := by
    exact_mod_cast Int.natCast_dvd_natCast.symm
  rw [casts, casts, pow_dvd_iff_le_emultiplicity, pow_dvd_iff_le_emultiplicity]
  push_cast
  rw [powers]

/-- Each quotient by `w` is that of `w` numbers. -/
theorem count_div {w : Nat} (pos : 0 < w) (p : Nat → Prop) [DecidablePred p] (m : Nat) :
    Nat.count (fun v => p (v / w)) (m * w) = w * Nat.count p m := by
  induction m with
  | zero => simp
  | succ m ih =>
    have quotient {r : Nat} (small : r < w) : (m * w + r) / w = m := by
      rw [Nat.add_comm, Nat.add_mul_div_right _ _ pos, Nat.div_eq_of_lt small, Nat.zero_add]
    rw [Nat.succ_mul, Nat.count_add, ih, Nat.count_succ, Nat.mul_add]
    congr 1
    split
    · rename_i holds
      rw [Nat.mul_one]
      exact Nat.count_of_forall fun _ small => by rwa [quotient small]
    · rename_i fails
      exact Nat.count_of_forall_not fun _ small => by rwa [quotient small]

namespace Dice

/-! ### The cycle -/

/-- What `n` steps add to a state: the step from it times a sum of `n` powers of the multiplier. -/
theorem toNat_iterate_advance (d : Dice) (n : Nat) :
    (advance^[n] d).state.toNat ≡ d.state.toNat +
      (∑ i ∈ Finset.range n, 22695477 ^ i) * (22695476 * d.state.toNat + 1) [MOD 2 ^ 30] := by
  induction n with
  | zero => simp [Nat.ModEq]
  | succ n ih =>
    rw [Function.iterate_succ_apply', toNat_advance, geom_sum_succ]
    calc (22695477 * (advance^[n] d).state.toNat + 1) % 2 ^ 30
        ≡ 22695477 * (advance^[n] d).state.toNat + 1 [MOD 2 ^ 30] := Nat.mod_modEq _ _
      _ ≡ 22695477 * (d.state.toNat +
            (∑ i ∈ Finset.range n, 22695477 ^ i) * (22695476 * d.state.toNat + 1)) + 1
            [MOD 2 ^ 30] := (ih.mul_left _).add_right 1
      _ = d.state.toNat + (22695477 * ∑ i ∈ Finset.range n, 22695477 ^ i + 1) *
            (22695476 * d.state.toNat + 1) := by ring

/-- The generator is back in a state exactly after multiples of as many steps as there are states. -/
theorem isPeriodicPt_advance_iff (d : Dice) (n : Nat) :
    IsPeriodicPt advance n d ↔ 2 ^ 30 ∣ n := by
  -- the step from a state is odd, so all depends on the sum of the powers
  have odd : Nat.Coprime (2 ^ 30) (22695476 * d.state.toNat + 1) := by
    apply Nat.Coprime.pow_left
    rw [Nat.coprime_two_left, Nat.odd_iff]
    omega
  have state := toNat_iterate_advance d n
  rw [← two_pow_dvd_geomSum_iff (a := 22695477) (by decide) (by decide),
    ← odd.dvd_mul_right, ← Nat.add_modEq_left_iff]
  constructor
  · intro back
    rw [back.eq] at state
    exact state.symm
  · intro nothing
    have back := state.trans nothing
    rw [Nat.ModEq, Nat.mod_eq_of_lt (BitVec.isLt _), Nat.mod_eq_of_lt (BitVec.isLt _)] at back
    exact ext_toNat back

theorem minimalPeriod_advance (d : Dice) : minimalPeriod advance d = 2 ^ 30 := by
  apply Nat.dvd_antisymm
  · rw [← Function.isPeriodicPt_iff_minimalPeriod_dvd, isPeriodicPt_advance_iff]
  · rw [← isPeriodicPt_advance_iff d]
    exact Function.isPeriodicPt_minimalPeriod advance d

theorem injOn_iterate_advance (d : Dice) : Set.InjOn (fun i => advance^[i] d) (Set.Iio (2 ^ 30)) :=
  minimalPeriod_advance d ▸ Function.iterate_injOn_Iio_minimalPeriod

/-- From any state the generator comes to each state after exactly one number of steps that is less
than the number of states. -/
theorem existsUnique_iterate_advance (d : Dice) (s : BitVec 30) :
    ∃! i, i < 2 ^ 30 ∧ (advance^[i] d).state = s := by
  have injective : Function.Injective fun i : Fin (2 ^ 30) => (advance^[i.val] d).state.toFin := by
    intro i j same
    apply Fin.ext
    exact injOn_iterate_advance d i.isLt j.isLt (ext_toNat (congrArg Fin.val same))
  obtain ⟨i, onto⟩ := Finite.surjective_of_injective injective s.toFin
  have reached : (advance^[i.val] d).state = s := BitVec.toFin_injective onto
  refine ⟨i.val, ⟨i.isLt, reached⟩, ?_⟩
  rintro j ⟨small, again⟩
  apply injOn_iterate_advance d small i.isLt
  exact ext_toNat (congrArg BitVec.toNat (again.trans reached.symm))

/-! ### The odds -/

/-- Of the states of a whole cycle as many have a property as of all states. -/
theorem count_iterate_advance (d : Dice) (p : Nat → Prop) [DecidablePred p] :
    Nat.count (fun i => p (advance^[i] d).state.toNat) (2 ^ 30) = Nat.count p (2 ^ 30) := by
  rw [Nat.count_eq_card_filter_range, Nat.count_eq_card_filter_range]
  apply Finset.card_nbij fun i => (advance^[i] d).state.toNat
  · intro i mem
    rw [Finset.mem_coe, Finset.mem_filter] at mem ⊢
    exact ⟨Finset.mem_range.2 (BitVec.isLt _), mem.2⟩
  · intro i memI j memJ same
    rw [Finset.mem_coe, Finset.mem_filter, Finset.mem_range] at memI memJ
    exact injOn_iterate_advance d memI.1 memJ.1 (ext_toNat same)
  · intro v mem
    rw [Finset.mem_coe, Finset.mem_filter, Finset.mem_range] at mem
    obtain ⟨i, ⟨small, reached⟩, -⟩ := existsUnique_iterate_advance d (BitVec.ofNat 30 v)
    have state : (advance^[i] d).state.toNat = v := by
      rw [reached, BitVec.toNat_ofNat, Nat.mod_eq_of_lt mem.1]
    refine ⟨i, ?_, state⟩
    rw [Finset.mem_coe, Finset.mem_filter, Finset.mem_range, state]
    exact ⟨small, mem.2⟩

theorem rolls_eq (d : Dice) (n m : Nat) :
    d.rolls n m = (List.range m).map fun i => (advance^[i] d.advance).face % n := by
  induction m generalizing d with
  | zero => rfl
  | succ m ih =>
    rw [rolls, List.range_succ_eq_map, List.map_cons, List.map_map]
    exact congrArg (_ :: ·) (ih d.advance)

theorem count_map_range (f : Nat → Nat) (k m : Nat) :
    ((List.range m).map f).count k = Nat.count (fun i => f i = k) m := by
  rw [List.count_eq_countP, List.countP_map]
  rfl

/-- In a whole cycle of rolls below `n`, each number occurs as often as it is the remainder of one of
the faces, of which each is that of `2 ^ 16` states. -/
theorem count_rolls (d : Dice) (n k : Nat) :
    (d.rolls n (2 ^ 30)).count k = 2 ^ 16 * Nat.count (fun j => j % n = k) (2 ^ 14) := by
  calc (d.rolls n (2 ^ 30)).count k
      = Nat.count (fun i => (advance^[i] d.advance).state.toNat / 2 ^ 16 % n = k) (2 ^ 30) := by
        simp only [rolls_eq, count_map_range, face, Nat.shiftRight_eq_div_pow]
    _ = Nat.count (fun v => v / 2 ^ 16 % n = k) (2 ^ 14 * 2 ^ 16) := by
        rw [← Nat.pow_add]
        exact count_iterate_advance d.advance fun v => v / 2 ^ 16 % n = k
    _ = 2 ^ 16 * Nat.count (fun j => j % n = k) (2 ^ 14) :=
        count_div (Nat.two_pow_pos 16) (fun j => j % n = k) (2 ^ 14)

theorem lt_of_mem_rolls {d : Dice} {n m r : Nat} (pos : 0 < n) (mem : r ∈ d.rolls n m) :
    r < n ∧ r < 2 ^ 14 := by
  rw [rolls_eq, List.mem_map] at mem
  obtain ⟨i, -, rfl⟩ := mem
  have small := (advance^[i] d.advance).state.isLt
  refine ⟨Nat.mod_lt _ pos, (Nat.mod_le _ _).trans_lt ?_⟩
  rw [face, Nat.shiftRight_eq_div_pow]
  omega

/-- From every seed and after any number of steps, as many steps as there are states come to each
state once and then back to the first. So in as many rolls below `n` each number occurs `2 ^ 16` times
for each of the `2 ^ 14` faces of which it is the remainder, and none occurs that is not below `n` and
below `2 ^ 14`. The generator on words of 64 bits, started with any such word, has the same states and
rolls the same numbers. -/
theorem full_cycle_with_known_odds (seed : UInt64) (m : Nat) :
    ((WideDice.after seed m).state.toNat = (after seed.toNat m).state.toNat ∧
        ∀ n c, ((WideDice.after seed m).rolls n c).map UInt32.toNat =
          (after seed.toNat m).rolls n.toNat c) ∧
      (∀ s : BitVec 30, ∃! i, i < 2 ^ 30 ∧ (after seed.toNat (m + i)).state = s) ∧
      after seed.toNat (m + 2 ^ 30) = after seed.toNat m ∧
      ∀ n, 0 < n →
        (∀ k, ((after seed.toNat m).rolls n (2 ^ 30)).count k =
          2 ^ 16 * Nat.count (fun j => j % n = k) (2 ^ 14)) ∧
        ∀ r ∈ (after seed.toNat m).rolls n (2 ^ 30), r < n ∧ r < 2 ^ 14 := by
  have same := WideDice.toNat_after seed m
  simp only [after_add]
  refine ⟨⟨same, WideDice.toNat_rolls same⟩, existsUnique_iterate_advance _, ?_, ?_⟩
  · exact (isPeriodicPt_advance_iff _ (2 ^ 30)).2 (Nat.dvd_refl _)
  · intro n pos
    exact ⟨count_rolls _ n, fun r mem => lt_of_mem_rolls pos mem⟩

/-- Of the rolls below three in a whole cycle, zero has one face more than the other two. -/
theorem odds_of_three :
    0 < 3 ∧
      ((after (18446744073709551615 : UInt64).toNat 7).rolls 3 (2 ^ 30)).count 0 = 2 ^ 16 * 5462 ∧
      ((after (18446744073709551615 : UInt64).toNat 7).rolls 3 (2 ^ 30)).count 1 =
        2 ^ 16 * 5461 := by
  obtain ⟨-, -, -, odds⟩ := full_cycle_with_known_odds 18446744073709551615 7
  obtain ⟨counts, -⟩ := odds 3 (by decide)
  have faces (k : Nat) := Nat.count_modEq_card (2 ^ 14) (by decide : 0 < 3) k
  have zeros : Nat.count (fun j => j % 3 = 0) (2 ^ 14) = 5462 := faces 0
  have ones : Nat.count (fun j => j % 3 = 1) (2 ^ 14) = 5461 := faces 1
  refine ⟨by decide, ?_, ?_⟩
  · rw [counts, zeros]
  · rw [counts, ones]

end Dice

end Formicary
