/-
Module: Formicary.Text.Numeral
Purpose: Numbers written in decimal digits.
Main exports: readWord?, Decimal, Decimal.read?
-/

namespace Formicary.Text

/-- Least number that does not fit an unsigned word of 64 bits. -/
def wordLimit : Nat := UInt64.size

/-- The number that a string of ASCII digits stands for. -/
def digitsValue (digits : List Char) : Nat :=
  Nat.ofDigitChars 10 digits 0

/-- Whether a text is one or more ASCII digits. -/
def isDigits (cs : List Char) : Bool :=
  !cs.isEmpty && cs.all Char.isDigit

/-- Read an unsigned number of at most 64 bits: digits, after a plus sign or none. -/
def readWord? (cs : List Char) : Option Nat :=
  let digits := match cs with
    | '+' :: rest => rest
    | _ => cs
  if isDigits digits && digitsValue digits < wordLimit then some (digitsValue digits) else none

/-- A decimal numeral of a brain: its integer part with the sign, and whether a digit other than
zero follows the point. -/
structure Decimal where
  whole : Int
  fractional : Bool
deriving DecidableEq, Repr

namespace Decimal

/-- A sign, if there is one, and what follows it. The flag says that the sign is a minus. -/
def splitSign : List Char → Bool × List Char
  | '-' :: rest => (true, rest)
  | '+' :: rest => (false, rest)
  | cs => (false, cs)

/-- Digits after the point, where the text is empty or a point with any number of digits. -/
def readFraction? : List Char → Option (List Char)
  | [] => some []
  | c :: digits => if c = '.' && digits.all Char.isDigit then some digits else none

/-- The integer with the given sign and size. -/
def signed (negative : Bool) (size : Nat) : Int :=
  if negative then -(size : Int) else size

/-- Read a numeral `[+-]?[0-9]+(\.[0-9]*)?` whose integer part fits a signed word of 64 bits. -/
def read? (cs : List Char) : Option Decimal := do
  let (negative, rest) := splitSign cs
  let digits := rest.takeWhile Char.isDigit
  let fraction ← readFraction? (rest.dropWhile Char.isDigit)
  let whole := signed negative (digitsValue digits)
  if digits.isEmpty then none
  else if whole < Int64.minValue.toInt || Int64.maxValue.toInt < whole then none
  else some { whole, fractional := fraction.any (· ≠ '0') }

end Decimal

end Formicary.Text
