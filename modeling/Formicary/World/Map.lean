/-
Module: Formicary.World.Map
Purpose: Reading a map from its text.
Main exports: Dimension, WorldFault, Terrain.read?, World.read
-/
import Formicary.Text.Blank
import Formicary.Text.Numeral
import Formicary.Text.Quoted
import Formicary.World

namespace Formicary

open Text

/-!
The first line of a map is its width and the second its height. Then follows a line for each row,
with one word for each cell. Blanks around the text and around its lines do not count, so that rows
may be indented as they lie on the plane.
-/

/-- The two numbers at the head of a map. -/
inductive Dimension where
  | width
  | height
deriving DecidableEq, Repr

/-- Name of a dimension. -/
def Dimension.name : Dimension → String
  | .width => "width"
  | .height => "height"

/-- What can be wrong with the text of a map. Rows and columns count from zero. -/
inductive WorldFault where
  | missingDimension (d : Dimension)
  | invalidDimension (d : Dimension) (value : String)
  | empty
  | missingRow (row : Nat)
  | rowLength (row expected found : Nat)
  | extraRows (expected : Nat)
  | invalidCell (word : String) (row column : Nat)
deriving DecidableEq, Repr

namespace WorldFault

/-- The message for a fault of a map. -/
def message : WorldFault → String
  | .missingDimension d => s!"missing {d.name} line"
  | .invalidDimension d value => s!"invalid {d.name}: {quoted value}"
  | .empty => "world must have at least one cell"
  | .missingRow row => s!"missing row {row}"
  | .rowLength row expected found => s!"row {row} has {found} cells, expected {expected}"
  | .extraRows expected => s!"more than {expected} rows"
  | .invalidCell word row column => s!"Invalid character: {word} (row {row}, column {column})"

end WorldFault

/-- The words for the terrains that a map can show. Food is shown up to nine pieces. -/
def Terrain.symbols : List (String × Terrain) := [
  ("#", .rock), (".", .clear), ("+", .hill .red), ("-", .hill .black),
  ("1", .food 1), ("2", .food 2), ("3", .food 3), ("4", .food 4), ("5", .food 5),
  ("6", .food 6), ("7", .food 7), ("8", .food 8), ("9", .food 9)]

/-- The terrain that a word of a map stands for. -/
def Terrain.read? (word : String) : Option Terrain := Terrain.symbols.lookup word

namespace World

/-- Read a dimension from the first of the lines left. -/
def readDimension (d : Dimension) : List (List Char) → Except WorldFault (Nat × List (List Char))
  | [] => .error (.missingDimension d)
  | line :: rest =>
    match readWord? (trim line) with
    | some n => .ok (n, rest)
    | none => .error (.invalidDimension d (String.ofList (trim line)))

/-- Read a cell. -/
def readSite (row column : Nat) (word : String) : Except WorldFault Site :=
  match Terrain.read? word with
  | some terrain => .ok { place := { x := column, y := row }, terrain }
  | none => .error (.invalidCell word row column)

/-- Read a row. A wrong number of cells is reported before a wrong cell. -/
def readRow (width row : Nat) (line : List Char) : Except WorldFault (List Site) :=
  let cells := words line
  if cells.length = width then
    cells.zipIdx.mapM fun (word, column) => readSite row column word
  else .error (.rowLength row width cells.length)

/-- Read `count` rows, of which the first is numbered `row`. The lines after them are left over. -/
def readRows (width : Nat) : (row count : Nat) → List (List Char) →
    Except WorldFault (List (List Site) × List (List Char))
  | _, 0, lines => .ok ([], lines)
  | row, _ + 1, [] => .error (.missingRow row)
  | row, count + 1, line :: lines => do
    let sites ← readRow width row line
    let (rows, leftOver) ← readRows width (row + 1) count lines
    return (sites :: rows, leftOver)

/-- Read a map. -/
def read (text : String) : Except WorldFault World := do
  let (width, rest) ← readDimension .width (lines (trim text.toList))
  let (height, rest) ← readDimension .height rest
  if width = 0 || height = 0 then .error .empty
  let (rows, leftOver) ← readRows width 0 height rest
  if leftOver.any fun line => !(trim line).isEmpty then .error (.extraRows height)
  return { width, height, sites := rows.flatten }

end World

end Formicary
