/-
Module: Formicary.Dice
Purpose: The generator of pseudo-random numbers.
Main exports: Dice, Dice.advance, Dice.ofSeed, Dice.roll
-/

namespace Formicary

/-- A linear congruential generator on words of thirty bits. -/
structure Dice where
  state : BitVec 30
deriving DecidableEq, Repr

namespace Dice

/-- The next state. -/
def advance (d : Dice) : Dice :=
  { state := 22695477#30 * d.state + 1#30 }

/-- A generator with a seed. The first three states after the seed are passed over; of a seed with
more than thirty bits the lowest thirty count. -/
def ofSeed (seed : Nat) : Dice :=
  advance (advance (advance { state := BitVec.ofNat 30 seed }))

/-- The number that a state shows: its fourteen high bits. -/
def face (d : Dice) : Nat := d.state.toNat >>> 16

/-- Roll a number below `n`. -/
def roll (d : Dice) (n : Nat) : Nat × Dice :=
  (d.advance.face % n, d.advance)

end Dice

end Formicary
