/-
Module: Formicary.Brain.Fault
Purpose: What can be wrong with the text of a brain.
Main exports: Quantity, Slot, LineFault, BrainFault
-/
import Formicary.Text.Quoted
import Formicary.Brain.Instruction

namespace Formicary

/-- The two kinds of number in an instruction: a state, and the odds of a flip. -/
inductive Quantity where
  | state
  | odds
deriving DecidableEq, Repr

/-- The kinds of place that a word of an instruction can fill. -/
inductive Slot where
  | opcode
  | gaze
  | marker
  | condition
  | rotation
  | number (q : Quantity)
deriving DecidableEq, Repr

/-- What can be wrong with one line. -/
inductive LineFault where
  /-- The line ends where a word is due. -/
  | missing (slot : Slot)
  /-- The word cannot stand in its place at all. -/
  | unknown (slot : Slot)
  /-- The number is not whole. -/
  | fractional (q : Quantity)
  /-- The number is whole but less than the least one allowed. -/
  | tooSmall (q : Quantity)
  /-- The instruction is complete and a word follows. -/
  | extraWords
  /-- A state lies beyond the end of the brain. -/
  | stateOutOfRange (state : State) (size : Nat)
deriving DecidableEq, Repr

namespace LineFault

/-- The message for a fault of a line. -/
def message : LineFault → String
  | .missing .opcode => "empty line"
  | .missing .gaze => "missing sense direction"
  | .missing .marker => "missing marker number"
  | .missing .condition => "missing condition"
  | .missing .rotation => "missing turn direction"
  | .missing (.number .state) => "missing state number"
  | .missing (.number .odds) => "missing p"
  | .unknown .opcode => "unrecognized instruction"
  | .unknown .gaze => "unrecognized sense direction"
  | .unknown .marker => "invalid marker number"
  | .unknown .condition => "unrecognized condition"
  | .unknown .rotation => "unrecognized turn direction"
  | .unknown (.number .state) => "invalid state number"
  | .unknown (.number .odds) => "invalid p"
  | .fractional .state => "state number must be an integer"
  | .fractional .odds => "p must be an integer"
  | .tooSmall .state => "state number must not be negative"
  | .tooSmall .odds => "p must be positive"
  | .extraWords => "extra tokens at end of line"
  | .stateOutOfRange state size =>
    s!"state {state} is out of range for a brain of {size} instructions"

end LineFault

/-- What can be wrong with a brain. -/
inductive BrainFault where
  /-- There is no instruction. -/
  | empty
  /-- A line, counted from one, has a fault. -/
  | line (number : Nat) (text : String) (fault : LineFault)
deriving DecidableEq, Repr

namespace BrainFault

/-- The message for a fault of a brain. -/
def message : BrainFault → String
  | .empty => "brain has no instructions"
  | .line number text fault => s!"line {number}: {Text.quoted text}\n{fault.message}"

end BrainFault

end Formicary
