/-
Module: Formicary.Proofs.WideDice
Purpose: The generator on words of 64 bits, of which thirty are kept: it goes through the states of
  the dice, whatever the seed.
Main exports: WideDice, Dice.after, Dice.rolls, WideDice.advance_of_modEq, WideDice.toNat_after,
  WideDice.toNat_rolls
-/
import Mathlib.Data.Nat.ModEq
import Formicary.Dice

namespace Formicary

/-- The generator as a machine with words of 64 bits computes it. A seed is taken as it is, sums and
products wrap around, and the lowest thirty bits of each new state are kept. -/
structure WideDice where
  state : UInt64
deriving DecidableEq, Repr

/-- The generator `m` steps after a seed. -/
def Dice.after (seed m : Nat) : Dice := advance^[m] (ofSeed seed)

/-- The numbers that some rolls below `n` show, one after the other. -/
def Dice.rolls (d : Dice) (n : Nat) : Nat → List Nat
  | 0 => []
  | m + 1 => (d.roll n).1 :: (d.roll n).2.rolls n m

theorem Dice.after_add (seed m i : Nat) : after seed (m + i) = advance^[i] (after seed m) := by
  rw [after, after, Nat.add_comm, Function.iterate_add_apply]

theorem Dice.ext_toNat {d e : Dice} (same : d.state.toNat = e.state.toNat) : d = e := by
  cases d
  cases e
  exact congrArg mk (BitVec.eq_of_toNat_eq same)

theorem Dice.toNat_advance (d : Dice) :
    d.advance.state.toNat = (22695477 * d.state.toNat + 1) % 2 ^ 30 := by
  rw [advance, BitVec.toNat_add, BitVec.toNat_mul, BitVec.toNat_ofNat, BitVec.toNat_ofNat]
  omega

namespace WideDice

theorem ext_toNat {d e : WideDice} (same : d.state.toNat = e.state.toNat) : d = e := by
  cases d
  cases e
  exact congrArg mk (UInt64.toNat_inj.1 same)

/-- The next state. -/
def advance (d : WideDice) : WideDice :=
  { state := (d.state * 22695477 + 1) &&& 0x3FFFFFFF }

/-- A generator with a seed. -/
def ofSeed (seed : UInt64) : WideDice :=
  advance (advance (advance { state := seed }))

/-- The generator `m` steps after a seed. -/
def after (seed : UInt64) (m : Nat) : WideDice := advance^[m] (ofSeed seed)

/-- Roll a number below `n`. -/
def roll (d : WideDice) (n : UInt32) : UInt32 × WideDice :=
  (((d.advance.state >>> 16) % n.toUInt64).toUInt32, d.advance)

/-- The numbers that some rolls below `n` show, one after the other. -/
def rolls (d : WideDice) (n : UInt32) : Nat → List UInt32
  | 0 => []
  | m + 1 => (d.roll n).1 :: (d.roll n).2.rolls n m

theorem toNat_advance (d : WideDice) :
    d.advance.state.toNat = (22695477 * d.state.toNat + 1) % 2 ^ 30 := by
  have mask : (0x3FFFFFFF : UInt64).toNat = 2 ^ 30 - 1 := rfl
  have multiplier : (22695477 : UInt64).toNat = 22695477 := rfl
  have increment : (1 : UInt64).toNat = 1 := rfl
  rw [advance, UInt64.toNat_and, mask, Nat.and_two_pow_sub_one_eq_mod, UInt64.toNat_add,
    UInt64.toNat_mul, multiplier, increment]
  omega

/-- A word and the number of its lowest thirty bits have the same next state. -/
theorem advance_of_modEq {d : WideDice} {e : Dice}
    (same : d.state.toNat ≡ e.state.toNat [MOD 2 ^ 30]) :
    d.advance.state.toNat = e.advance.state.toNat := by
  rw [toNat_advance, Dice.toNat_advance]
  exact (same.mul_left _).add_right 1

theorem toNat_ofSeed (seed : UInt64) :
    (ofSeed seed).state.toNat = (Dice.ofSeed seed.toNat).state.toNat := by
  have lowest : seed.toNat ≡ (BitVec.ofNat 30 seed.toNat).toNat [MOD 2 ^ 30] := by
    rw [BitVec.toNat_ofNat]
    exact (Nat.mod_modEq _ _).symm
  have first := advance_of_modEq (d := { state := seed }) (e := { state := _ }) lowest
  have second := advance_of_modEq (congrArg (· % 2 ^ 30) first)
  exact advance_of_modEq (congrArg (· % 2 ^ 30) second)

/-- The words that follow a seed are the states of the dice. -/
theorem toNat_after (seed : UInt64) (m : Nat) :
    (after seed m).state.toNat = (Dice.after seed.toNat m).state.toNat := by
  induction m with
  | zero => exact toNat_ofSeed seed
  | succ m ih =>
    rw [after, Dice.after, Function.iterate_succ_apply', Function.iterate_succ_apply']
    exact advance_of_modEq (congrArg (· % 2 ^ 30) ih)

theorem toNat_roll {d : WideDice} {e : Dice} (same : d.state.toNat = e.state.toNat) (n : UInt32) :
    (d.roll n).1.toNat = (e.roll n.toNat).1 := by
  have next := advance_of_modEq (congrArg (· % 2 ^ 30) same)
  have small := e.advance.state.isLt
  have shift : (16 : UInt64).toNat = 16 := rfl
  rw [roll, Dice.roll, Dice.face, UInt64.toNat_toUInt32, UInt64.toNat_mod, UInt64.toNat_shiftRight,
    UInt32.toNat_toUInt64, shift, next]
  apply Nat.mod_eq_of_lt
  rw [Nat.shiftRight_eq_div_pow]
  have face := (Nat.mod_le (e.advance.state.toNat / 2 ^ (16 % 64)) n.toNat).trans
    (Nat.div_le_self _ _)
  omega

theorem toNat_rolls {d : WideDice} {e : Dice} (same : d.state.toNat = e.state.toNat) (n : UInt32)
    (m : Nat) : (d.rolls n m).map UInt32.toNat = e.rolls n.toNat m := by
  induction m generalizing d e with
  | zero => rfl
  | succ m ih =>
    rw [rolls, Dice.rolls, List.map_cons, toNat_roll same]
    exact congrArg (_ :: ·) (ih (advance_of_modEq (congrArg (· % 2 ^ 30) same)))

end WideDice

end Formicary
