/-
Module: Formicary.Text.Blank
Purpose: Blank characters, and the words and lines they separate.
Main exports: isBlank, trimRight, trim, lines, words
-/

namespace Formicary.Text

/-- The characters with the Unicode property White_Space. The zero-width space and the byte order
mark are not among them. -/
def isBlank (c : Char) : Bool :=
  let n := c.toNat
  (9 ≤ n && n ≤ 13) || n == 0x20 || n == 0x85 || n == 0xA0 || n == 0x1680
    || (0x2000 ≤ n && n ≤ 0x200A) || n == 0x2028 || n == 0x2029 || n == 0x202F
    || n == 0x205F || n == 0x3000

/-- A text without the blanks at its end. -/
def trimRight (cs : List Char) : List Char :=
  (cs.reverse.dropWhile isBlank).reverse

/-- A text without the blanks at its two ends. -/
def trim (cs : List Char) : List Char :=
  trimRight (cs.dropWhile isBlank)

/-- The lines of a text. Only a line feed ends a line; a text with nothing in it has no lines. -/
def lines (cs : List Char) : List (List Char) :=
  if cs.isEmpty then [] else cs.splitOn '\n'

/-- The words of a text: its longest stretches without a blank. -/
def words (cs : List Char) : List String :=
  ((cs.splitOnP isBlank).filter fun w => !w.isEmpty).map String.ofList

/-- The blanks of the core library are blank. -/
theorem isBlank_of_isWhitespace {c : Char} (h : c.isWhitespace = true) : isBlank c = true := by
  simp only [Char.isWhitespace, Bool.or_eq_true, decide_eq_true_eq] at h
  rcases h with ((h | h) | h) | h <;> subst h <;> decide

end Formicary.Text
