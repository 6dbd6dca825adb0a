/-
Module: Formicary.Brain.Line
Purpose: Reading one instruction from one line of text.
Main exports: Instruction.form, codeWords, Instruction.read
-/
import Formicary.Text.Blank
import Formicary.Text.Lowercase
import Formicary.Text.Numeral
import Formicary.Brain.Form

namespace Formicary

open Text

/-! ### Numbers -/

namespace Quantity

/-- Least number allowed. -/
def least : Quantity → Int
  | .state => 0
  | .odds => 1

/-- Least number too large. -/
def limit : Quantity → Int
  | .state => UInt64.size
  | .odds => UInt32.size

/-- Read a number. A fraction other than zero is reported before a number that is too small, and
that before one that is too large. -/
def read (q : Quantity) (w : String) : Except LineFault Nat :=
  match Decimal.read? w.toList with
  | none => .error (.unknown (.number q))
  | some numeral =>
    if numeral.fractional then .error (.fractional q)
    else if numeral.whole < q.least then .error (.tooSmall q)
    else if numeral.whole < q.limit then .ok numeral.whole.toNat
    else .error (.unknown (.number q))

end Quantity

/-! ### Instructions -/

/-- Reader of a number. -/
def Quantity.form (q : Quantity) : Form Nat := .word (.number q) q.read

/-- Reader of a state. -/
def State.form : Form State := Quantity.state.form

/-- Reader of a marker. -/
def Marker.form : Form Marker := .oneOf .marker Marker.all Marker.word

/-- Reader of a gaze. -/
def Gaze.form : Form Gaze := .oneOf .gaze Gaze.all Gaze.word

/-- Reader of a rotation. -/
def Rotation.form : Form Rotation := .oneOf .rotation Rotation.all Rotation.word

/-- Reader of a condition. -/
def Condition.form : Form Condition :=
  .choice .condition <|
    ("marker", do return .marker (← Marker.form)) ::
      Condition.plain.map fun c => (c.word, .done c)

namespace Instruction

/-- The opcodes, each with the reader of its operands. -/
def opcodes : List (String × Form Instruction) := [
  ("sense", do
    return .sense (← Gaze.form) (← State.form) (← State.form) (← Condition.form)),
  ("mark", do return .mark (← Marker.form) (← State.form)),
  ("unmark", do return .unmark (← Marker.form) (← State.form)),
  ("pickup", do return .pickUp (← State.form) (← State.form)),
  ("drop", do return .drop (← State.form)),
  ("turn", do return .turn (← Rotation.form) (← State.form)),
  ("move", do return .move (← State.form) (← State.form)),
  ("flip", do return .flip (← Quantity.odds.form) (← State.form) (← State.form))]

/-- Reader of an instruction. -/
def form : Form Instruction := .choice .opcode opcodes

end Instruction

/-- The words of a line that count: those before the first semicolon, in lower case. -/
def codeWords (line : List Char) : List String :=
  words (lowercase (line.takeWhile (· ≠ ';')))

/-- Read the instruction on a line. -/
def Instruction.read (line : List Char) : Except LineFault Instruction :=
  Instruction.form.run (codeWords line)

end Formicary
