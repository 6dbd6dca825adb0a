/-
Module: Formicary.Proofs.Defects
Purpose: Why a text is no map: the first thing that is wrong with its lines, whatever comes after.
Main exports: SoundRow, RowDefect, RowsDefect, MapDefect, World.readRow_eq_error_iff,
  World.readRows_eq_error_iff, World.read_eq_error_iff, WorldFault.row?,
  World.first_defect_reported
-/
import Formicary.Proofs.MapText
import Formicary.Proofs.Spelling

namespace Formicary

open Text

/-! ### What can be wrong with rows -/

/-- The words of a row that is as wide as the map and shows a terrain in each of its cells. -/
def SoundRow (width : Nat) (cells : List String) : Prop :=
  cells.length = width ∧ ∀ word ∈ cells, ∃ t, Terrain.Shows word t

/-- What is wrong with the words of row `y`. As long as their number is wrong, it does not matter
what they are. -/
inductive RowDefect (width y : Nat) (cells : List String) : WorldFault → Prop
  | length (wrong : cells.length ≠ width) :
    RowDefect width y cells (.rowLength y width cells.length)
  | cell (front : List String) (word : String) (back : List String)
    (fits : cells.length = width) (split : cells = front ++ word :: back)
    (before : ∀ w ∈ front, ∃ t, Terrain.Shows w t) (unknown : ∀ t, ¬Terrain.Shows word t) :
    RowDefect width y cells (.invalidCell word y front.length)

/-- What is wrong with the rows of a map of which `count` are due, the first of them row `y`: the
first row that is not sound, or one that is missing after rows that are all sound. -/
inductive RowsDefect (width y count : Nat) (rows : List (List String)) : WorldFault → Prop
  | missing (sound : ∀ cells ∈ rows, SoundRow width cells) (few : rows.length < count) :
    RowsDefect width y count rows (.missingRow (y + rows.length))
  | row (front : List (List String)) (cells : List String) (back : List (List String))
    (fault : WorldFault) (split : rows = front ++ cells :: back)
    (sound : ∀ cells ∈ front, SoundRow width cells) (due : front.length < count)
    (defect : RowDefect width (y + front.length) cells fault) :
    RowsDefect width y count rows fault

/-- What is wrong with the lines of a map, in the order in which it is found. -/
inductive MapDefect : List (List Char) → WorldFault → Prop
  | noWidth : MapDefect [] (.missingDimension .width)
  | width (first : List Char) (rest : List (List Char))
    (bad : ∀ n, ¬WordNumeral (trim first) n) :
    MapDefect (first :: rest) (.invalidDimension .width (String.ofList (trim first)))
  | noHeight (first : List Char) (width : Nat) (wide : WordNumeral (trim first) width) :
    MapDefect [first] (.missingDimension .height)
  | height (first second : List Char) (rest : List (List Char)) (width : Nat)
    (wide : WordNumeral (trim first) width) (bad : ∀ n, ¬WordNumeral (trim second) n) :
    MapDefect (first :: second :: rest) (.invalidDimension .height (String.ofList (trim second)))
  | empty (first second : List Char) (rest : List (List Char)) (width height : Nat)
    (wide : WordNumeral (trim first) width) (high : WordNumeral (trim second) height)
    (none : width = 0 ∨ height = 0) : MapDefect (first :: second :: rest) .empty
  | rows (first second : List Char) (rest : List (List Char)) (width height : Nat)
    (fault : WorldFault) (wide : WordNumeral (trim first) width)
    (high : WordNumeral (trim second) height) (some : width ≠ 0 ∧ height ≠ 0)
    (defect : RowsDefect width 0 height (rest.map words) fault) :
    MapDefect (first :: second :: rest) fault
  | extraRows (first second : List Char) (front back : List (List Char)) (width height : Nat)
    (wide : WordNumeral (trim first) width) (high : WordNumeral (trim second) height)
    (some : width ≠ 0 ∧ height ≠ 0) (whole : front.length = height)
    (sound : ∀ line ∈ front, SoundRow width (words line)) (more : back ≠ []) :
    MapDefect (first :: second :: (front ++ back)) (.extraRows height)

namespace RowsDefect

variable {width y count : Nat} {cells : List String} {rows : List (List String)}
  {fault : WorldFault}

theorem not_zero : ¬RowsDefect width y 0 rows fault := by
  intro defect
  cases defect with
  | missing _ few => exact Nat.not_lt_zero _ few
  | row _ _ _ _ _ _ due => exact Nat.not_lt_zero _ due

theorem nil_iff : RowsDefect width y (count + 1) [] fault ↔ fault = .missingRow y := by
  constructor
  · intro defect
    cases defect with
    | missing => rfl
    | row front _ _ _ split => simp at split
  · rintro rfl
    exact .missing (by simp) (Nat.zero_lt_succ count)

theorem cons_iff : RowsDefect width y (count + 1) (cells :: rows) fault ↔
    RowDefect width y cells fault ∨
      SoundRow width cells ∧ RowsDefect width (y + 1) count rows fault := by
  have next (n : Nat) : y + (n + 1) = y + 1 + n := by omega
  constructor
  · intro defect
    cases defect with
    | missing sound few =>
      obtain ⟨first, others⟩ := List.forall_mem_cons.1 sound
      rw [List.length_cons, next]
      exact .inr ⟨first, .missing others (Nat.lt_of_succ_lt_succ few)⟩
    | row front here back _ split sound due defect =>
      cases front with
      | nil =>
        cases split
        exact .inl defect
      | cons first front =>
        cases split
        obtain ⟨first, others⟩ := List.forall_mem_cons.1 sound
        rw [List.length_cons, next] at defect
        exact .inr ⟨first, .row front here back _ rfl others (Nat.lt_of_succ_lt_succ due) defect⟩
  · rintro (defect | ⟨first, defect⟩)
    · exact .row [] cells rows _ rfl (by simp) (Nat.zero_lt_succ count) defect
    · cases defect with
      | missing sound few =>
        rw [← next]
        exact .missing (List.forall_mem_cons.2 ⟨first, sound⟩) (Nat.succ_lt_succ few)
      | row front here back _ split sound due defect =>
        subst split
        rw [← next] at defect
        exact .row (cells :: front) here back _ rfl (List.forall_mem_cons.2 ⟨first, sound⟩)
          (Nat.succ_lt_succ due) defect

end RowsDefect

namespace World

/-! ### Rows -/

theorem exists_readRow_iff {width y : Nat} {line : List Char} :
    (∃ sites, readRow width y line = .ok sites) ↔ SoundRow width (words line) := by
  simp only [readRow_eq_ok_iff, Terrain.ShowsRow]
  constructor
  · rintro ⟨_, row, ⟨fits, shown⟩, -⟩
    exact ⟨fits, exists_forall₂_iff.1 ⟨row, shown⟩⟩
  · rintro ⟨fits, each⟩
    obtain ⟨row, shown⟩ := exists_forall₂_iff.2 each
    exact ⟨_, row, ⟨fits, shown⟩, rfl⟩

theorem readSite_eq_error_iff {y x : Nat} {word : String} {fault : WorldFault} :
    readSite y x word = .error fault ↔
      (∀ t, ¬Terrain.Shows word t) ∧ fault = .invalidCell word y x := by
  rw [readSite]
  simp only [← Terrain.read?_eq_some_iff]
  cases Terrain.read? word with
  | none => simp [eq_comm]
  | some t => simp

theorem exists_readSite_iff {y x : Nat} {word : String} :
    (∃ site, readSite y x word = .ok site) ↔ ∃ t, Terrain.Shows word t := by
  simp only [readSite_eq_ok_iff]
  exact ⟨fun ⟨_, t, shows, _⟩ => ⟨t, shows⟩, fun ⟨t, shows⟩ => ⟨_, t, shows, rfl⟩⟩

theorem mapM_readSite_eq_error_iff {y : Nat} {cells : List String} {fault : WorldFault} :
    cells.zipIdx.mapM (fun (word, column) => readSite y column word) = .error fault ↔
      ∃ front word back, cells = front ++ word :: back ∧
        (∀ w ∈ front, ∃ t, Terrain.Shows w t) ∧ (∀ t, ¬Terrain.Shows word t) ∧
        fault = .invalidCell word y front.length := by
  rw [mapM_eq_error_iff]
  simp only [exists_readSite_iff, readSite_eq_error_iff]
  constructor
  · rintro ⟨_, ⟨word, x⟩, _, split, before, unknown, rfl⟩
    obtain ⟨front, _, rfl, rfl, rest⟩ := List.zipIdx_eq_append_iff.1 split
    obtain ⟨_, back, rfl, here, -⟩ := List.zipIdx_eq_cons_iff.1 rest.symm
    cases here
    rw [← List.forall_mem_map (f := Prod.fst) (P := fun w => ∃ t, Terrain.Shows w t),
      List.zipIdx_map_fst] at before
    exact ⟨front, word, back, rfl, before, unknown, by rw [Nat.zero_add]⟩
  · rintro ⟨front, word, back, rfl, before, unknown, rfl⟩
    refine ⟨front.zipIdx, (word, front.length), back.zipIdx (front.length + 1), ?_, ?_, unknown, rfl⟩
    · rw [List.zipIdx_append, List.zipIdx_cons, Nat.zero_add]
    · exact fun x mem => before x.1 (List.fst_mem_of_mem_zipIdx mem)

theorem readRow_eq_error_iff {width y : Nat} {line : List Char} {fault : WorldFault} :
    readRow width y line = .error fault ↔ RowDefect width y (words line) fault := by
  rw [readRow]
  split
  · rename_i fits
    rw [mapM_readSite_eq_error_iff]
    constructor
    · rintro ⟨front, word, back, split, before, unknown, rfl⟩
      exact .cell front word back fits split before unknown
    · intro defect
      cases defect with
      | length wrong => exact absurd fits wrong
      | cell front word back _ split before unknown =>
        exact ⟨front, word, back, split, before, unknown, rfl⟩
  · rename_i wrong
    rw [Except.error.injEq]
    constructor
    · rintro rfl
      exact .length wrong
    · intro defect
      cases defect with
      | length => rfl
      | cell _ _ _ fits => exact absurd fits wrong

theorem readRows_eq_error_iff {width y count : Nat} {text : List (List Char)}
    {fault : WorldFault} :
    readRows width y count text = .error fault ↔
      RowsDefect width y count (text.map words) fault := by
  induction count generalizing y text with
  | zero => simp [readRows, RowsDefect.not_zero]
  | succ count ih =>
    cases text with
    | nil => simp [readRows, RowsDefect.nil_iff, eq_comm]
    | cons line text =>
      simp only [readRows, bind_eq_error_iff, readRow_eq_error_iff, ih, List.map_cons,
        RowsDefect.cons_iff, ← exists_readRow_iff (y := y), pure, Except.pure, reduceCtorEq,
        and_false, exists_false, or_false, exists_and_right]

/-! ### The whole text -/

theorem readDimension_eq_error_iff {d : Dimension} {text : List (List Char)}
    {fault : WorldFault} :
    readDimension d text = .error fault ↔
      text = [] ∧ fault = .missingDimension d ∨
        ∃ line rest, text = line :: rest ∧ (∀ n, ¬WordNumeral (trim line) n) ∧
          fault = .invalidDimension d (String.ofList (trim line)) := by
  cases text with
  | nil => simp [readDimension, eq_comm]
  | cons line rest =>
    simp only [readDimension, ← readWord?_eq_some_iff]
    cases found : readWord? (trim line) with
    | none => simp [found, eq_comm]
    | some n => simp [found]

theorem forall₂_showsRow_iff {width : Nat} {front : List (List Char)} :
    (∃ grid, List.Forall₂ (Terrain.ShowsRow width) front grid) ↔
      ∀ line ∈ front, SoundRow width (words line) := by
  rw [exists_forall₂_iff]
  simp only [Terrain.ShowsRow, exists_and_left, exists_forall₂_iff, SoundRow]

/-- There are lines left over exactly if one of them is not blank, for the last line of a trimmed
text is none. -/
theorem any_leftOver_iff {text : String} {front leftOver : List (List Char)}
    (split : lines (trim text.toList) = front ++ leftOver) :
    (leftOver.any fun line => !(trim line).isEmpty) ↔ leftOver ≠ [] := by
  constructor
  · rintro some rfl
    cases some
  · intro some
    obtain ⟨others, last, rfl⟩ := (List.eq_nil_or_concat leftOver).resolve_left some
    rw [List.concat_eq_append, ← List.append_assoc] at split
    simp [not_blank_of_lines_trim split]

/-- A text is refused with a fault exactly if that is the first thing that is wrong with its
lines. -/
theorem read_eq_error_iff {text : String} {fault : WorldFault} :
    read text = .error fault ↔ MapDefect (lines (trim text.toList)) fault := by
  simp only [read, bind_eq_error_iff, check_eq_error_iff, Prod.exists,
    readDimension_eq_error_iff, readDimension_eq_ok_iff, readRows_eq_error_iff,
    readRows_eq_ok_iff, Bool.or_eq_true, decide_eq_true_eq, not_or, pure, Except.pure,
    reduceCtorEq, and_false, or_false]
  constructor
  · rintro ((⟨none, rfl⟩ | ⟨first, rest, split, bad, rfl⟩) | ⟨width, _, ⟨first, split, wide⟩,
      (⟨rfl, rfl⟩ | ⟨second, rest, rfl, bad, rfl⟩) | ⟨height, rest, ⟨second, rfl, high⟩,
        ⟨none, rfl⟩ | ⟨some, defect | ⟨_, back, ⟨front, grid, rfl, whole, shown, rfl⟩,
          more, rfl⟩⟩⟩⟩)
    · rw [none]
      exact .noWidth
    · rw [split]
      exact .width first rest bad
    · rw [split]
      exact .noHeight first width wide
    · rw [split]
      exact .height first second rest width wide bad
    · rw [split]
      exact .empty first second rest width height wide high none
    · rw [split]
      exact .rows first second rest width height fault wide high some defect
    · have left : lines (trim text.toList) = (first :: second :: front) ++ back := split
      rw [split]
      exact .extraRows first second front back width height wide high some whole
        (forall₂_showsRow_iff.1 ⟨grid, shown⟩) ((any_leftOver_iff left).1 more)
  · intro defect
    generalize split : lines (trim text.toList) = ls at defect
    cases defect with
    | noWidth => exact .inl (.inl ⟨rfl, rfl⟩)
    | width first rest bad => exact .inl (.inr ⟨first, rest, rfl, bad, rfl⟩)
    | noHeight first width wide =>
      exact .inr ⟨width, _, ⟨first, rfl, wide⟩, .inl (.inl ⟨rfl, rfl⟩)⟩
    | height first second rest width wide bad =>
      exact .inr ⟨width, _, ⟨first, rfl, wide⟩, .inl (.inr ⟨second, rest, rfl, bad, rfl⟩)⟩
    | empty first second rest width height wide high none =>
      exact .inr ⟨width, _, ⟨first, rfl, wide⟩, .inr ⟨height, rest, ⟨second, rfl, high⟩,
        .inl ⟨none, rfl⟩⟩⟩
    | rows first second rest width height _ wide high some defect =>
      exact .inr ⟨width, _, ⟨first, rfl, wide⟩, .inr ⟨height, rest, ⟨second, rfl, high⟩,
        .inr ⟨some, .inl defect⟩⟩⟩
    | extraRows first second front back width height wide high some whole sound more =>
      have left : lines (trim text.toList) = (first :: second :: front) ++ back := split
      obtain ⟨grid, shown⟩ := forall₂_showsRow_iff.2 sound
      exact .inr ⟨width, _, ⟨first, rfl, wide⟩, .inr ⟨height, front ++ back, ⟨second, rfl, high⟩,
        .inr ⟨some, .inr ⟨_, back, ⟨front, grid, rfl, whole, shown, rfl⟩,
          (any_leftOver_iff left).2 more, rfl⟩⟩⟩⟩

end World

/-! ### What comes after the first defect -/

/-- The row in which a fault is found, for the faults that are found inside a row. -/
def WorldFault.row? : WorldFault → Option Nat
  | .rowLength row _ _ => some row
  | .invalidCell _ row _ => some row
  | _ => none

theorem RowDefect.row? {width y : Nat} {cells : List String} {fault : WorldFault}
    (defect : RowDefect width y cells fault) : fault.row? = some y := by
  cases defect <;> rfl

/-- A defect in a row does not depend on the rows after it. -/
theorem RowsDefect.of_take_eq {width count r : Nat} {rows others : List (List String)}
    {fault : WorldFault} (defect : RowsDefect width 0 count rows fault) (here : fault.row? = some r)
    (same : rows.take (r + 1) = others.take (r + 1)) : RowsDefect width 0 count others fault := by
  cases defect with
  | missing => simp [WorldFault.row?] at here
  | row front cells back _ split sound due defect =>
    have row : front.length = r := by
      rw [defect.row?, Option.some.injEq, Nat.zero_add] at here
      exact here
    have upTo : rows.take (r + 1) = front ++ [cells] := by
      rw [split, ← row, List.take_length_add_append, List.take_succ_cons, List.take_zero]
    have split : others = front ++ cells :: others.drop (r + 1) := by
      conv_lhs => rw [← List.take_append_drop (r + 1) others, ← same, upTo]
      rw [List.append_assoc, List.singleton_append]
    exact .row front cells _ fault split sound due defect

/-- A defect in a row depends on the two dimensions and on the rows up to it, and there only on
what the lines are without the blanks around them. -/
theorem MapDefect.of_take_eq {r : Nat} {text other : List (List Char)} {fault : WorldFault}
    (defect : MapDefect text fault) (here : fault.row? = some r)
    (same : (text.take (r + 3)).map trim = (other.take (r + 3)).map trim) :
    MapDefect other fault := by
  cases defect with
  | rows first second rest width height _ wide high some defect =>
    match other with
    | [] => simp at same
    | [_] => simp at same
    | first' :: second' :: rest' =>
      simp only [List.take_succ_cons, List.map_cons, List.cons.injEq] at same
      obtain ⟨sameWidth, sameHeight, sameRows⟩ := same
      rw [sameWidth] at wide
      rw [sameHeight] at high
      have sameWords : (rest.map words).take (r + 1) = (rest'.map words).take (r + 1) := by
        have words_trim : words ∘ trim = words := funext Text.words_trim
        rw [← List.map_take, ← List.map_take, ← words_trim, ← List.map_map, ← List.map_map,
          sameRows]
      exact .rows first' second' rest' width height fault wide high some
        (defect.of_take_eq here sameWords)
  | _ => simp [WorldFault.row?] at here

namespace World

/-- The first defect of a map is reported and what comes after it is not looked at: a text is
refused with a fault exactly if that is the first thing that is wrong with its lines, and one that
is refused for a row is refused for the same reason if it goes on differently after that row. -/
theorem first_defect_reported (text : String) :
    (∀ fault, read text = .error fault ↔ MapDefect (lines (trim text.toList)) fault) ∧
    ∀ (other : String) (r : Nat),
      ((lines (trim text.toList)).take (r + 3)).map trim =
        ((lines (trim other.toList)).take (r + 3)).map trim →
      ∀ fault : WorldFault, fault.row? = some r →
        (read text = .error fault ↔ read other = .error fault) := by
  refine ⟨fun fault => read_eq_error_iff, fun other r same fault here => ?_⟩
  rw [read_eq_error_iff, read_eq_error_iff]
  exact ⟨fun defect => defect.of_take_eq here same,
    fun defect => defect.of_take_eq here same.symm⟩

/-- A row that is too long is refused for its length although no terrain is shown by `x`, and
neither the row after it nor the blanks around the lines matter. -/
theorem crowded_row_reported :
    read "2\n3\n. .\n. x y\n# #" = .error (.rowLength 1 2 3) ∧
      read "2\r\n3\n . .\n. x y" = .error (.rowLength 1 2 3) := by
  obtain ⟨defects, same⟩ := first_defect_reported "2\n3\n. .\n. x y\n# #"
  have split : lines (trim "2\n3\n. .\n. x y\n# #".toList) =
      [['2'], ['3'], ". .".toList, ". x y".toList, "# #".toList] := by cbv
  have cells : [". .".toList, ". x y".toList, "# #".toList].map words =
      [[".", "."], [".", "x", "y"], ["#", "#"]] := by cbv
  have shown : ∃ t, Terrain.Shows "." t := ⟨_, .clear⟩
  have first : SoundRow 2 [".", "."] := ⟨rfl, by simp [shown]⟩
  have crowded : read "2\n3\n. .\n. x y\n# #" = .error (.rowLength 1 2 3) := by
    rw [defects, split]
    refine .rows ['2'] ['3'] _ 2 3 _ (readWord?_eq_some_iff.1 (by cbv))
      (readWord?_eq_some_iff.1 (by cbv)) (by decide) ?_
    rw [cells]
    exact .row [[".", "."]] [".", "x", "y"] [["#", "#"]] _ rfl
      (List.forall_mem_singleton.2 first) (by decide) (.length (by decide))
  exact ⟨crowded, (same "2\r\n3\n . .\n. x y" 1 (by cbv) _ rfl).1 crowded⟩

end World

end Formicary
