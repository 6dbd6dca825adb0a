/-
Module: Formicary.Text.Quoted
Purpose: A text in quotation marks, as error messages show it.
Main exports: escape, quoted
-/
import Formicary.Text.Unprintable

namespace Formicary.Text

/-- How a character is written between quotation marks: the quotation mark, the backslash and four
controls have short forms, other unprintable characters stand by their hexadecimal number, and the
rest stand for themselves. -/
def escape (c : Char) : List Char :=
  if c = '"' then ['\\', '"']
  else if c = '\\' then ['\\', '\\']
  else if c = '\n' then ['\\', 'n']
  else if c = '\r' then ['\\', 'r']
  else if c = '\t' then ['\\', 't']
  else if c.toNat = 0 then ['\\', '0']
  else if isUnprintable c then ['\\', 'u', '\x7b'] ++ Nat.toDigits 16 c.toNat ++ ['\x7d']
  else [c]

/-- A text between quotation marks. -/
def quoted (s : String) : String :=
  String.ofList ('"' :: s.toList.flatMap escape ++ ['"'])

end Formicary.Text
