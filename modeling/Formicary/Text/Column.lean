/-
Module: Formicary.Text.Column
Purpose: Texts filled up with blanks to a width.
Main exports: alignLeft, alignRight
-/

namespace Formicary.Text

/-- A text with blanks after it, up to a number of characters. -/
def alignLeft (width : Nat) (s : String) : String :=
  s ++ String.ofList (List.replicate (width - s.length) ' ')

/-- A text with blanks before it, up to a number of characters. -/
def alignRight (width : Nat) (s : String) : String :=
  String.ofList (List.replicate (width - s.length) ' ') ++ s

end Formicary.Text
