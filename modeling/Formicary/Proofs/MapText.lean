/-
Module: Formicary.Proofs.MapText
Purpose: Which texts are maps, and which map each of them is.
Main exports: Text.WordNumeral, Terrain.Shows, MapText, World.ofGrid, World.read_eq_ok_iff
-/
import Formicary.Proofs.Odds
import Formicary.Proofs.Readers
import Formicary.Proofs.Source
import Formicary.World.Map

namespace Formicary

open Text

/-! ### Dimensions -/

namespace Text

/-- A text of the form `[+]?[0-9]+` that stands for a number of at most 64 bits. -/
def WordNumeral (cs : List Char) (n : Nat) : Prop :=
  ∃ sign digits, cs = sign ++ digits ∧ (sign = [] ∨ sign = ['+']) ∧ digits ≠ [] ∧
    (∀ c ∈ digits, c.isDigit) ∧ digitsValue digits = n ∧ n < 2 ^ 64

theorem isDigits_iff {cs : List Char} : isDigits cs ↔ cs ≠ [] ∧ ∀ c ∈ cs, c.isDigit := by
  simp [isDigits]

/-- A plus sign may stand before the digits, and is none of them. -/
theorem exists_sign (cs : List Char) :
    ∃ sign digits, cs = sign ++ digits ∧ (sign = [] ∨ sign = ['+']) ∧
      readWord? cs = if isDigits digits && digitsValue digits < wordLimit then
        some (digitsValue digits) else none := by
  by_cases plus : ∃ rest, cs = '+' :: rest
  · obtain ⟨rest, rfl⟩ := plus
    exact ⟨['+'], rest, rfl, .inr rfl, rfl⟩
  · refine ⟨[], cs, rfl, .inl rfl, ?_⟩
    cases cs with
    | nil => rfl
    | cons c rest =>
      have other : c ≠ '+' := fun same => plus ⟨rest, by rw [same]⟩
      simp [readWord?, other]

theorem readWord?_of_sign {sign digits : List Char} (isSign : sign = [] ∨ sign = ['+'])
    (some : digits ≠ []) (digit : ∀ c ∈ digits, c.isDigit) :
    readWord? (sign ++ digits) =
      if digitsValue digits < 2 ^ 64 then .some (digitsValue digits) else none := by
  have whole : isDigits digits = true := isDigits_iff.2 ⟨some, digit⟩
  rcases isSign with rfl | rfl
  · obtain ⟨c, rest, rfl⟩ := List.exists_cons_of_ne_nil some
    have plus : c ≠ '+' := by
      rintro rfl
      exact absurd (digit '+' List.mem_cons_self) (by decide)
    simp [readWord?, plus, whole, wordLimit, UInt64.size]
  · simp [readWord?, whole, wordLimit, UInt64.size]

theorem readWord?_eq_some_iff {cs : List Char} {n : Nat} :
    readWord? cs = some n ↔ WordNumeral cs n := by
  constructor
  · intro found
    obtain ⟨sign, digits, rfl, isSign, read⟩ := exists_sign cs
    rw [read, Option.ite_none_right_eq_some, Bool.and_eq_true, decide_eq_true_eq,
      isDigits_iff] at found
    obtain ⟨⟨⟨some, digit⟩, fits⟩, value⟩ := found
    rw [Option.some.injEq] at value
    exact ⟨sign, digits, rfl, isSign, some, digit, value, value ▸ fits⟩
  · rintro ⟨sign, digits, rfl, isSign, some, digit, rfl, fits⟩
    rw [readWord?_of_sign isSign some digit, if_pos fits]

/-! ### Blanks at the end -/

theorem trim_eq_nil_iff {cs : List Char} : trim cs = [] ↔ ∀ c ∈ cs, isBlank c := by
  rw [trim, trimRight, List.reverse_eq_nil_iff, List.dropWhile_eq_nil_iff]
  constructor
  · intro blank
    have all : ∀ c ∈ cs.dropWhile isBlank, isBlank c := by simpa using blank
    intro c mem
    rw [← List.takeWhile_append_dropWhile (p := isBlank) (l := cs), List.mem_append] at mem
    exact mem.elim List.mem_takeWhile_imp (all c)
  · intro blank c mem
    exact blank c ((List.dropWhile_sublist isBlank).subset (List.mem_reverse.1 mem))

/-- What is left of a trimmed text ends with a character that is not blank. -/
theorem endsSolid_trim {cs : List Char} (some : trim cs ≠ []) : EndsSolid (trim cs) := by
  rw [trim, trimRight] at some ⊢
  obtain ⟨c, rest, first⟩ := List.exists_cons_of_ne_nil (mt List.reverse_eq_nil_iff.2 some)
  rw [first, List.reverse_cons]
  refine ⟨rest.reverse, c, rfl, ?_⟩
  have head := List.head_dropWhile_not isBlank (l := (cs.dropWhile isBlank).reverse)
    (by simp [first])
  simpa [first] using head

/-- The last line of a trimmed text is not blank. -/
theorem not_blank_of_lines_trim {cs : List Char} {front : List (List Char)} {last : List Char}
    (split : lines (trim cs) = front ++ [last]) : trim last ≠ [] := by
  have some : trim cs ≠ [] := by
    intro empty
    simp [lines, empty] at split
  obtain ⟨before, c, ends, solid⟩ := endsSolid_trim some
  intro blank
  rw [trim_eq_nil_iff] at blank
  -- otherwise the text would end with a blank of this line, or with a line feed
  have text : front.flatMap (· ++ ['\n']) ++ last = before ++ [c] := by
    have ended : (front ++ [last]).flatMap (· ++ ['\n']) = _ := flatMap_feed (by simp)
    rw [List.flatMap_append, List.flatMap_singleton, ← List.append_assoc, ← split, lines,
      if_neg (by simpa using some), List.intercalate_splitOn, ends] at ended
    exact List.append_cancel_right ended
  rcases List.eq_nil_or_concat last with rfl | ⟨part, d, rfl⟩
  · rcases List.eq_nil_or_concat front with rfl | ⟨parts, part, rfl⟩
    · simp at text
    · simp only [List.concat_eq_append, List.flatMap_append, List.flatMap_cons, List.flatMap_nil,
        List.append_nil, ← List.append_assoc] at text
      have feed : '\n' = c := List.cons.inj (List.append_inj_right' text rfl) |>.1
      rw [← feed] at solid
      exact absurd solid (by decide)
  · simp only [List.concat_eq_append, ← List.append_assoc] at text
    have same : d = c := List.cons.inj (List.append_inj_right' text rfl) |>.1
    rw [← same, blank d (by simp)] at solid
    cases solid

end Text

/-! ### Cells and rows -/

/-- The words of a map and the terrains they stand for. -/
inductive Terrain.Shows : String → Terrain → Prop
  | rock : Shows "#" .rock
  | clear : Shows "." .clear
  | redHill : Shows "+" (.hill .red)
  | blackHill : Shows "-" (.hill .black)
  | food {n : Nat} (some : 1 ≤ n) (few : n ≤ 9) : Shows (Nat.repr n) (.food n)

theorem Terrain.symbols_eq :
    symbols = [("#", .rock), (".", .clear), ("+", .hill .red), ("-", .hill .black)] ++
      (List.range' 1 9).map fun n => (Nat.repr n, .food n) := by
  decide

theorem Terrain.read?_eq_some_iff {word : String} {t : Terrain} :
    read? word = some t ↔ Shows word t := by
  constructor
  · intro found
    have entry : (word, t) ∈ symbols := mem_of_lookup found
    rw [symbols_eq, List.mem_append, List.mem_map] at entry
    rcases entry with letter | ⟨n, digit, same⟩
    · simp only [List.mem_cons, Prod.mk.injEq, List.not_mem_nil, or_false] at letter
      rcases letter with ⟨rfl, rfl⟩ | ⟨rfl, rfl⟩ | ⟨rfl, rfl⟩ | ⟨rfl, rfl⟩
      · exact .rock
      · exact .clear
      · exact .redHill
      · exact .blackHill
    · cases same
      rw [List.mem_range'_1] at digit
      exact .food digit.1 (Nat.le_of_lt_succ digit.2)
  · intro shows
    apply lookup_of_mem (by decide)
    cases shows with
    | rock | clear | redHill | blackHill => decide
    | @food n some few =>
      rw [symbols_eq, List.mem_append, List.mem_map]
      exact .inr ⟨n, List.mem_range'_1.2 ⟨some, Nat.lt_succ_of_le few⟩, rfl⟩

/-- A line that shows a row of `width` terrains. -/
def Terrain.ShowsRow (width : Nat) (line : List Char) (row : List Terrain) : Prop :=
  (words line).length = width ∧ List.Forall₂ Shows (words line) row

namespace World

/-- The sites of row `y` of a map, the first of them in column `x`. -/
def rowSites (y x : Nat) (row : List Terrain) : List Site :=
  (row.zipIdx x).map fun (terrain, column) => { place := { x := column, y }, terrain }

/-- The sites of the rows of a map, the first of them row `y`. -/
def gridSites (y : Nat) (grid : List (List Terrain)) : List Site :=
  ((grid.zipIdx y).map fun (row, y) => rowSites y 0 row).flatten

theorem rowSites_cons (y x : Nat) (t : Terrain) (row : List Terrain) :
    rowSites y x (t :: row) = { place := { x, y }, terrain := t } :: rowSites y (x + 1) row := rfl

theorem gridSites_cons (y : Nat) (row : List Terrain) (grid : List (List Terrain)) :
    gridSites y (row :: grid) = rowSites y 0 row ++ gridSites (y + 1) grid := rfl

/-- The map with the given rows. -/
def ofGrid (width height : Nat) (grid : List (List Terrain)) : World :=
  { width, height, sites := gridSites 0 grid }

/-! ### Reading -/

theorem readDimension_eq_ok_iff {d : Dimension} {text rest : List (List Char)} {n : Nat} :
    readDimension d text = .ok (n, rest) ↔
      ∃ line, text = line :: rest ∧ WordNumeral (trim line) n := by
  cases text with
  | nil => simp [readDimension]
  | cons line text =>
    simp only [readDimension, ← readWord?_eq_some_iff, List.cons.injEq]
    cases found : readWord? (trim line) with
    | none =>
      constructor
      · rintro ⟨⟩
      · rintro ⟨_, ⟨rfl, rfl⟩, value⟩
        rw [found] at value
        cases value
    | some m =>
      constructor
      · rintro ⟨⟩
        exact ⟨line, ⟨rfl, rfl⟩, found⟩
      · rintro ⟨_, ⟨rfl, rfl⟩, value⟩
        rw [found] at value
        cases value
        rfl

theorem readSite_eq_ok_iff {y x : Nat} {word : String} {site : Site} :
    readSite y x word = .ok site ↔
      ∃ t, Terrain.Shows word t ∧ site = { place := { x, y }, terrain := t } := by
  rw [readSite]
  simp only [← Terrain.read?_eq_some_iff]
  cases Terrain.read? word with
  | none => simp
  | some t => simp [eq_comm]

theorem mapM_readSite_eq_ok_iff {y x : Nat} {cells : List String} {sites : List Site} :
    (cells.zipIdx x).mapM (fun (word, column) => readSite y column word) = .ok sites ↔
      ∃ row, List.Forall₂ Terrain.Shows cells row ∧ sites = rowSites y x row := by
  rw [mapM_eq_ok_iff]
  induction cells generalizing x sites with
  | nil => simp [rowSites]
  | cons word cells ih =>
    rw [List.zipIdx_cons, List.forall₂_cons_left_iff]
    constructor
    · rintro ⟨site, rest, first, others, rfl⟩
      obtain ⟨t, shows, rfl⟩ := readSite_eq_ok_iff.1 first
      obtain ⟨row, shown, rfl⟩ := ih.1 others
      exact ⟨t :: row, .cons shows shown, rfl⟩
    · rintro ⟨row, shown, rfl⟩
      cases shown with
      | cons shows shown =>
        exact ⟨_, _, readSite_eq_ok_iff.2 ⟨_, shows, rfl⟩, ih.2 ⟨_, shown, rfl⟩, rfl⟩

theorem readRow_eq_ok_iff {width y : Nat} {line : List Char} {sites : List Site} :
    readRow width y line = .ok sites ↔
      ∃ row, Terrain.ShowsRow width line row ∧ sites = rowSites y 0 row := by
  rw [readRow]
  split
  · rename_i fits
    simp only [mapM_readSite_eq_ok_iff, Terrain.ShowsRow, fits, true_and]
  · rename_i fits
    simp [Terrain.ShowsRow, fits]

theorem readRows_eq_ok_iff {width y count : Nat} {text leftOver : List (List Char)}
    {rows : List (List Site)} :
    readRows width y count text = .ok (rows, leftOver) ↔
      ∃ front grid, text = front ++ leftOver ∧ front.length = count ∧
        List.Forall₂ (Terrain.ShowsRow width) front grid ∧
        rows = (grid.zipIdx y).map fun (row, y) => rowSites y 0 row := by
  induction count generalizing y text rows with
  | zero =>
    rw [readRows]
    simp only [Except.ok.injEq, Prod.mk.injEq]
    constructor
    · rintro ⟨rfl, rfl⟩
      exact ⟨[], [], rfl, rfl, .nil, rfl⟩
    · rintro ⟨front, grid, rfl, none, shown, rfl⟩
      rw [List.length_eq_zero_iff] at none
      subst none
      cases shown
      exact ⟨rfl, rfl⟩
  | succ count ih =>
    cases text with
    | nil =>
      simp only [readRows, reduceCtorEq, false_iff]
      rintro ⟨front, grid, empty, length, -⟩
      rw [List.nil_eq_append_iff] at empty
      simp [empty.1] at length
    | cons line text =>
      simp only [readRows, bind_eq_ok_iff, readRow_eq_ok_iff]
      constructor
      · rintro ⟨_, ⟨row, shows, rfl⟩, ⟨rest, _⟩, others, ⟨⟩⟩
        obtain ⟨front, grid, rfl, rfl, shown, rfl⟩ := ih.1 others
        exact ⟨line :: front, row :: grid, rfl, rfl, .cons shows shown, rfl⟩
      · rintro ⟨front, grid, lines, length, shown, rfl⟩
        cases shown with
        | nil => cases length
        | @cons _ row front grid shows shown =>
          cases lines
          exact ⟨_, ⟨row, shows, rfl⟩, (_, leftOver),
            ih.2 ⟨front, grid, rfl, Nat.succ.inj length, shown, rfl⟩, rfl⟩

end World

/-! ### The whole text -/

/-- A text that shows a map: its trimmed lines are the width, the height and then as many rows as
the map is high, each with as many words as the map is wide. -/
def MapText (text : String) (width height : Nat) (grid : List (List Terrain)) : Prop :=
  ∃ first second rows, lines (trim text.toList) = first :: second :: rows ∧
    WordNumeral (trim first) width ∧ WordNumeral (trim second) height ∧
    1 ≤ width ∧ 1 ≤ height ∧ rows.length = height ∧
    List.Forall₂ (Terrain.ShowsRow width) rows grid

namespace MapText

variable {text : String} {width height : Nat} {grid : List (List Terrain)}
  (shown : MapText text width height grid)

include shown

theorem width_pos : 1 ≤ width := by
  obtain ⟨-, -, -, -, -, -, some, -⟩ := shown
  exact some

theorem height_pos : 1 ≤ height := by
  obtain ⟨-, -, -, -, -, -, -, some, -⟩ := shown
  exact some

theorem length_grid : grid.length = height := by
  obtain ⟨-, -, rows, -, -, -, -, -, rfl, rowsShown⟩ := shown
  exact rowsShown.length_eq.symm

theorem length_row : ∀ row ∈ grid, row.length = width := by
  obtain ⟨-, -, rows, -, -, -, -, -, -, rowsShown⟩ := shown
  induction rowsShown with
  | nil => simp
  | cons first _ ih => exact List.forall_mem_cons.2 ⟨first.2.length_eq ▸ first.1, ih⟩

end MapText

/-- A text is read exactly if it shows a map, and it is that map which is read. -/
theorem World.read_eq_ok_iff {text : String} {w : World} :
    read text = .ok w ↔
      ∃ width height grid, MapText text width height grid ∧ w = ofGrid width height grid := by
  simp only [read, bind_eq_ok_iff, check_eq_ok_iff, Prod.exists, readDimension_eq_ok_iff,
    readRows_eq_ok_iff, Bool.or_eq_true, decide_eq_true_eq, not_or]
  constructor
  · rintro ⟨width, _, ⟨first, split, wide⟩, height, _, ⟨second, rfl, high⟩, ⟨someWidth, someHeight⟩,
      _, leftOver, ⟨rows, grid, rfl, count, shown, rfl⟩, blank, ⟨⟩⟩
    have none : leftOver = [] := by
      rcases List.eq_nil_or_concat leftOver with none | ⟨front, last, rfl⟩
      · exact none
      · rw [List.concat_eq_append, ← List.append_assoc, ← List.cons_append,
          ← List.cons_append] at split
        have solid := not_blank_of_lines_trim split
        simp [solid] at blank
    subst none
    rw [List.append_nil] at split
    exact ⟨width, height, grid, ⟨first, second, rows, split, wide, high,
      Nat.pos_of_ne_zero someWidth, Nat.pos_of_ne_zero someHeight, count, shown⟩, rfl⟩
  · rintro ⟨width, height, grid, ⟨first, second, rows, split, wide, high, someWidth, someHeight,
      count, shown⟩, rfl⟩
    exact ⟨width, second :: rows, ⟨first, split, wide⟩, height, rows, ⟨second, rfl, high⟩,
      ⟨Nat.ne_of_gt someWidth, Nat.ne_of_gt someHeight⟩, _, [],
      ⟨rows, grid, (List.append_nil rows).symm, count, shown, rfl⟩, by simp, rfl⟩

end Formicary
