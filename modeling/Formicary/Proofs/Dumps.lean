/-
Module: Formicary.Proofs.Dumps
Purpose: A dump shows the board: its lines tell the places of the map, their cells and the ants on
  them.
Main exports: Ant.LooksLike, Ant.dump_inj, Battle.dumpCell_inj, Battle.AlikeAt,
  Battle.alike_of_dumpLines, Battle.dump_shows_board
-/
import Mathlib.Data.List.Basic
import Formicary.Battle.Dump
import Formicary.Proofs.Occupancy
import Formicary.Proofs.Segments

namespace Formicary

open Text

theorem Colony.name_append_inj {c c' : Colony} {back back' : List Char}
    (same : c.name.toList ++ back = c'.name.toList ++ back') : c = c' ∧ back = back' := by
  cases c <;> cases c'
  case red.red | black.black => exact ⟨rfl, List.append_cancel_left same⟩
  case red.black | black.red => simp [name] at same

/-! ### Markers -/

namespace MarkerSet

theorem mem_toList {s : MarkerSet} {m : Marker} : m ∈ s.toList ↔ s.contains m := by
  rw [toList, List.mem_filter, and_iff_right]
  revert m
  decide

theorem toList_injective : Function.Injective toList := by
  intro s s' same
  have contains (m : Marker) : s.contains m = s'.contains m := by
    rw [Bool.eq_iff_iff, ← mem_toList, ← mem_toList, same]
  cases s
  cases s'
  rw [mk.injEq]
  exact BitVec.eq_of_getLsbD_eq fun i small => contains ⟨i, small⟩

theorem isEmpty_iff {s : MarkerSet} : s.isEmpty ↔ s = empty := by
  cases s
  rw [isEmpty, beq_iff_eq, empty, mk.injEq]

theorem toList_digits (s : MarkerSet) :
    s.digits.toList = s.toList.map fun m => Nat.digitChar m.val := by
  have word (m : Marker) : (Marker.word m).toList = [Nat.digitChar m.val] := by
    revert m
    decide
  rw [digits, String.toList_join, List.flatMap_map, List.map_eq_flatMap]
  simp only [word]

theorem isDigit_of_mem_digits {s : MarkerSet} {c : Char} (mem : c ∈ s.digits.toList) :
    c.isDigit := by
  rw [toList_digits, List.mem_map] at mem
  obtain ⟨m, -, rfl⟩ := mem
  revert m
  decide

theorem digits_append_inj {s s' : MarkerSet} {back back' : List Char} (stop : Undigited back)
    (stop' : Undigited back') (same : s.digits.toList ++ back = s'.digits.toList ++ back') :
    s = s' ∧ back = back' := by
  obtain ⟨digits, rest⟩ := Text.digits_append_inj (fun _ => isDigit_of_mem_digits)
    (fun _ => isDigit_of_mem_digits) stop stop' same
  have distinct : Function.Injective fun m : Marker => Nat.digitChar m.val := by decide
  rw [toList_digits, toList_digits] at digits
  exact ⟨toList_injective (List.map_injective_iff.2 distinct digits), rest⟩

end MarkerSet

/-!
### Parts of a line

Nothing marks where one part of a line ends and the next begins, and most parts begin with the name
of a colony. They can be told apart since no part begins as another one does beyond that name.
-/

namespace Cell

/-- The word for rock in a line. -/
def rockText (isRock : Bool) : List Char := if isRock then "rock".toList else []

/-- The food in a line. -/
def foodText (food : Nat) : List Char :=
  if 0 < food then (Nat.repr food).toList ++ " food; ".toList else []

/-- The anthill in a line. -/
def hillText : Option Colony → List Char
  | some c => c.name.toList ++ " hill; ".toList
  | none => []

/-- The markers of a colony in a line. -/
def marksText (c : Colony) (s : MarkerSet) : List Char :=
  if s.isEmpty then [] else c.name.toList ++ (" marks: ".toList ++ (s.digits.toList ++ "; ".toList))

theorem rockText_segment : Segment rockText ["rock".toList] := by
  refine .of_absent false rfl ?begins ?ends
  case begins =>
    intro isRock rock
    rw [Bool.ne_false_iff] at rock
    exact ⟨_, List.mem_cons_self, rock ▸ List.prefix_rfl⟩
  case ends =>
    intro isRock isRock' back back' rock rock' same
    rw [Bool.ne_false_iff] at rock rock'
    subst rock rock'
    exact ⟨rfl, List.append_cancel_left same⟩

/-- A number begins with one of the ten digits. -/
theorem foodText_segment : Segment foodText ("0123456789".toList.map ([·])) := by
  have present {food : Nat} (some : food ≠ 0) :
      foodText food = (Nat.repr food).toList ++ " food; ".toList :=
    if_pos (Nat.pos_of_ne_zero some)
  refine .of_absent 0 rfl ?begins ?ends
  case begins =>
    intro food some
    obtain ⟨c, rest, digits, isDigit⟩ := exists_repr_eq_cons food
    refine ⟨[c], List.mem_map_of_mem (mem_digits isDigit), ?_⟩
    rw [present some, digits, List.cons_append, List.cons_prefix_cons]
    exact ⟨rfl, List.nil_prefix⟩
  case ends =>
    intro food food' back back' some some' same
    rw [present some, present some', List.append_assoc, List.append_assoc] at same
    exact repr_sep_inj (by decide) (by decide) same

theorem hillText_segment :
    Segment hillText ["red hill".toList, "black hill".toList] := by
  refine .of_absent none rfl ?begins ?ends
  case begins =>
    intro owner some
    obtain ⟨c, rfl⟩ := Option.ne_none_iff_exists'.1 some
    cases c <;> decide
  case ends =>
    intro owner owner' back back' some some' same
    obtain ⟨c, rfl⟩ := Option.ne_none_iff_exists'.1 some
    obtain ⟨c', rfl⟩ := Option.ne_none_iff_exists'.1 some'
    rw [hillText, hillText, List.append_assoc, List.append_assoc] at same
    obtain ⟨rfl, rest⟩ := Colony.name_append_inj same
    exact ⟨rfl, List.append_cancel_left rest⟩

theorem marksText_segment (c : Colony) :
    Segment (marksText c) [c.name.toList ++ " marks".toList] := by
  have present {s : MarkerSet} (some : s ≠ .empty) :
      marksText c s =
        c.name.toList ++ (" marks: ".toList ++ (s.digits.toList ++ "; ".toList)) :=
    if_neg (mt MarkerSet.isEmpty_iff.1 some)
  refine .of_absent .empty rfl ?begins ?ends
  case begins =>
    intro s some
    refine ⟨_, List.mem_cons_self, ?_⟩
    rw [present some, List.prefix_append_right_inj]
    exact List.prefix_append_of_prefix (by decide)
  case ends =>
    intro s s' back back' some some' same
    rw [present some, present some'] at same
    simp only [List.append_assoc, List.append_cancel_left_eq] at same
    obtain ⟨markers, rest⟩ := MarkerSet.digits_append_inj
      (Undigited.append (by decide) (by decide) back)
      (Undigited.append (by decide) (by decide) back') same
    exact ⟨markers, List.append_cancel_left rest⟩

end Cell

/-! ### Ants -/

/-- Two ants that a dump shows alike. -/
structure Ant.LooksLike (a a' : Ant) : Prop where
  colony : a.colony = a'.colony
  facing : a.facing = a'.facing
  laden : a.laden = a'.laden
  state : a.state = a'.state
  resting : a.resting = a'.resting

namespace Ant

theorem toList_dump (id : Nat) (a : Ant) :
    (a.dump id).toList = a.colony.name.toList ++ (" ant of id ".toList ++
      ((Nat.repr id).toList ++ (", dir ".toList ++ ((Nat.repr a.facing.val).toList ++
        (", food ".toList ++ ((Nat.repr a.laden.toNat).toList ++ (", ".toList ++
          ("state ".toList ++ ((Nat.repr a.state).toList ++ (", resting ".toList ++
            ((Nat.repr a.resting).toList ++ []))))))))))) := by
  simp only [dump, String.toList_append, List.append_assoc, List.append_nil]
  rfl

/-- A dump tells the number of an ant and all that a dump shows of it. -/
theorem dump_inj {id id' : Nat} {a a' : Ant} (same : a.dump id = a'.dump id') :
    id = id' ∧ a.LooksLike a' := by
  have same := congrArg String.toList same
  rw [toList_dump, toList_dump] at same
  obtain ⟨colony, same⟩ := Colony.name_append_inj same
  obtain ⟨number, same⟩ := repr_sep_inj (by decide) (by decide) (List.append_cancel_left same)
  obtain ⟨facing, same⟩ := repr_sep_inj (by decide) (by decide) same
  obtain ⟨laden, same⟩ := repr_sep_inj (by decide) (by decide) same
  obtain ⟨state, same⟩ := repr_sep_inj (by decide) (by decide) (List.append_cancel_left same)
  obtain ⟨resting, -⟩ := repr_append_inj (by decide) (by decide) same
  have laden : a.laden = a'.laden := by
    revert laden
    cases a.laden <;> cases a'.laden <;> simp
  exact ⟨number, colony, Fin.ext facing, laden, state, resting⟩

/-- The openings of an ant in a line. -/
def dumpOpenings : List (List Char) := ["red ant".toList, "black ant".toList]

theorem opens_dump (id : Nat) (a : Ant) : Opens dumpOpenings (a.dump id).toList := by
  have isOpening : a.colony.name.toList ++ " ant".toList ∈ dumpOpenings := by
    cases a.colony <;> decide
  refine .inr ⟨_, isOpening, ?_⟩
  rw [toList_dump, List.prefix_append_right_inj]
  exact List.prefix_append_of_prefix (by decide)

theorem dump_ne_nil (id : Nat) (a : Ant) : (a.dump id).toList ≠ [] := by
  rw [toList_dump]
  cases a.colony <;> simp [Colony.name]

end Ant

/-! ### Lines -/

namespace Cell

/-- A cell in a line, without the ant that stands on it. -/
def groundText (c : Cell) : List Char :=
  rockText c.isRock ++ foodText c.food ++ hillText c.owner ++ marksText .red c.markers.red ++
    marksText .black c.markers.black

/-- All but the ant can be told from what a line says of a cell. -/
theorem groundText_append_inj {c c' : Cell} {last last' : List Char}
    (opens : Opens Ant.dumpOpenings last) (opens' : Opens Ant.dumpOpenings last')
    (same : c.groundText ++ last = c'.groundText ++ last') :
    (c.isRock = c'.isRock ∧ c.food = c'.food ∧ c.owner = c'.owner ∧ c.markers = c'.markers) ∧
      last = last' := by
  have ground := rockText_segment
    |>.append foodText_segment (by decide)
    |>.append hillText_segment (by decide)
    |>.append (marksText_segment .red) (by decide)
    |>.append (marksText_segment .black) (by decide)
  obtain ⟨parts, rest⟩ := ground.append_last
    ((((c.isRock, c.food), c.owner), c.markers.red), c.markers.black)
    ((((c'.isRock, c'.food), c'.owner), c'.markers.red), c'.markers.black)
    (by decide) (by decide) opens opens' same
  simp only [Prod.mk.injEq] at parts
  obtain ⟨⟨⟨⟨isRock, food⟩, owner⟩, red⟩, black⟩ := parts
  have markers : c.markers = c'.markers := by
    refine PerColony.ext_get fun d => ?_
    cases d
    · exact red
    · exact black
  exact ⟨⟨isRock, food, owner, markers⟩, rest⟩

end Cell

namespace Battle

/-- The ant on a cell in a line. -/
def occupantText (b : Battle) (cell : Cell) : List Char :=
  match cell.occupant with
  | some id => (((b.ant? id).map (Ant.dump id)).getD "").toList
  | none => []

section Occupant

variable {b : Battle} {cell : Cell} {id : Nat} {ant : Ant}

theorem occupantText_none (empty : cell.occupant = none) : b.occupantText cell = [] := by
  rw [occupantText, empty]

theorem occupantText_some (occupied : cell.occupant = some id) (present : b.ant? id = some ant) :
    b.occupantText cell = (ant.dump id).toList := by
  rw [occupantText, occupied]
  simp only [present, Option.map_some, Option.getD_some]

theorem opens_occupantText (named : ∀ id, cell.occupant = some id → ∃ ant, b.ant? id = some ant) :
    Opens Ant.dumpOpenings (b.occupantText cell) := by
  cases occupied : cell.occupant with
  | none => exact .inl (occupantText_none occupied)
  | some id =>
    obtain ⟨ant, present⟩ := named id occupied
    rw [occupantText_some occupied present]
    exact Ant.opens_dump id ant

end Occupant

theorem toList_dumpCell (b : Battle) (p : Place) (cell : Cell) :
    (b.dumpCell p cell).toList = "cell (".toList ++ (p.x.repr.toList ++ (", ".toList ++
      (p.y.repr.toList ++ ("): ".toList ++ (cell.groundText ++ b.occupantText cell))))) := by
  have rock : (if cell.isRock then "rock" else "").toList = Cell.rockText cell.isRock := by
    rw [Cell.rockText]
    split <;> rfl
  have food : (if 0 < cell.food then s!"{cell.food} food; " else "").toList =
      Cell.foodText cell.food := by
    rw [Cell.foodText]
    split
    · simp only [String.toList_append]
      rfl
    · rfl
  have marks (c : Colony) (s : MarkerSet) : (MarkerSet.dump c s).toList = Cell.marksText c s := by
    rw [Cell.marksText, MarkerSet.dump]
    split
    · rfl
    · simp only [String.toList_append, List.append_assoc]
      rfl
  rw [dumpCell, String.toList_join]
  simp only [List.flatMap_cons, List.flatMap_nil, rock, food, marks, Cell.groundText,
    occupantText, String.toList_append, List.append_assoc, List.append_nil]
  cases cell.owner with
  | none => cases cell.occupant <;> rfl
  | some c =>
    simp only [Cell.hillText, String.toList_append, List.append_assoc]
    cases cell.occupant <;> rfl

section Alike

variable {b b' : Battle} {p p' : Place} {cell cell' : Cell}

/-- A line tells the place, the cell and what a dump shows of the ant on it. -/
theorem dumpCell_inj (named : ∀ id, cell.occupant = some id → ∃ ant, b.ant? id = some ant)
    (named' : ∀ id, cell'.occupant = some id → ∃ ant, b'.ant? id = some ant)
    (same : b.dumpCell p cell = b'.dumpCell p' cell') :
    p = p' ∧ cell = cell' ∧
      Option.Rel Ant.LooksLike (cell.occupant.bind b.ant?) (cell'.occupant.bind b'.ant?) := by
  have same := congrArg String.toList same
  rw [toList_dumpCell, toList_dumpCell] at same
  obtain ⟨x, same⟩ := int_sep_inj (by decide) (by decide) (List.append_cancel_left same)
  obtain ⟨y, same⟩ := int_sep_inj (by decide) (by decide) same
  obtain ⟨⟨isRock, food, owner, markers⟩, same⟩ :=
    Cell.groundText_append_inj (opens_occupantText named) (opens_occupantText named') same
  have occupants : cell.occupant = cell'.occupant ∧
      Option.Rel Ant.LooksLike (cell.occupant.bind b.ant?) (cell'.occupant.bind b'.ant?) := by
    cases here : cell.occupant with
    | none =>
      cases there : cell'.occupant with
      | none => exact ⟨rfl, .none⟩
      | some id' =>
        obtain ⟨ant', present'⟩ := named' id' there
        rw [occupantText_none here, occupantText_some there present'] at same
        exact absurd same.symm (Ant.dump_ne_nil id' ant')
    | some id =>
      obtain ⟨ant, present⟩ := named id here
      cases there : cell'.occupant with
      | none =>
        rw [occupantText_some here present, occupantText_none there] at same
        exact absurd same (Ant.dump_ne_nil id ant)
      | some id' =>
        obtain ⟨ant', present'⟩ := named' id' there
        rw [occupantText_some here present, occupantText_some there present'] at same
        obtain ⟨rfl, alike⟩ := Ant.dump_inj (String.toList_inj.1 same)
        refine ⟨rfl, ?_⟩
        rw [Option.bind_some, Option.bind_some, present, present']
        exact .some alike
  refine ⟨?_, ?_, occupants.2⟩
  · cases p
    cases p'
    rw [Place.mk.injEq]
    exact ⟨x, y⟩
  · cases cell
    cases cell'
    rw [Cell.mk.injEq]
    exact ⟨isRock, occupants.1, owner, food, markers⟩

/-- Two battles with the same cell at a place, and ants on it that a dump shows alike. -/
structure AlikeAt (b b' : Battle) (here there : Place × Nat) : Prop where
  place : here.1 = there.1
  cell : b.cellAt here.2 = b'.cellAt there.2
  occupant : Option.Rel Ant.LooksLike (b.occupant? here.2) (b'.occupant? there.2)

/-- The dumps of two battles are the same only if their boards are, place by place. -/
theorem alike_of_dumpLines (sound : b.Sound) (sound' : b'.Sound)
    (same : b.dumpLines = b'.dumpLines) :
    List.Forall₂ (b.AlikeAt b') b.layout.slots b'.layout.slots := by
  have named {b : Battle} (sound : b.Sound) (slot id : Nat)
      (occupied : (b.cellAt slot).occupant = some id) : ∃ ant, b.ant? id = some ant := by
    obtain ⟨ant, present, -⟩ := sound.named slot id occupied
    exact ⟨ant, present⟩
  rw [dumpLines, dumpLines, ← List.forall₂_eq_eq_eq, List.forall₂_map_left_iff,
    List.forall₂_map_right_iff] at same
  refine same.imp fun here there line => ?_
  obtain ⟨place, cell, occupant⟩ := dumpCell_inj (named sound _) (named sound' _) line
  exact ⟨place, cell, occupant⟩

end Alike

/-- The dump of a battle, after whole rounds or between the turns of two ants, tells which places
the map has, in its order, what is on their cells, and which ants stand there in which state. -/
theorem dump_shows_board {w w' : World} {brains brains' : PerColony Brain} {seed seed' : Nat}
    {b b' : Battle} (started : start w brains seed = .ok b)
    (started' : start w' brains' seed' = .ok b') {n k n' k' : Nat}
    (same : (b.moment n k).dumpLines = (b'.moment n' k').dumpLines) :
    w.places = w'.places ∧
      List.Forall₂ ((b.moment n k).AlikeAt (b'.moment n' k')) (b.moment n k).layout.slots
        (b'.moment n' k').layout.slots := by
  have alike := alike_of_dumpLines (sound_moment started n k) (sound_moment started' n' k') same
  refine ⟨?_, alike⟩
  have listed {w : World} {brains : PerColony Brain} {seed : Nat} {b : Battle}
      (started : start w brains seed = .ok b) (n k : Nat) :
      (b.moment n k).layout.slots.map Prod.fst = w.places := by
    rw [(lasting_moment b n k).layout, (begun_of_start started).covers.slots, List.map_map]
    exact List.map_id _
  rw [← listed started n k, ← listed started' n' k', ← List.forall₂_eq_eq_eq,
    List.forall₂_map_left_iff, List.forall₂_map_right_iff]
  exact alike.imp fun _ _ both => both.place

/-- A brain that turns for ever and has a second state, which it never gets to. -/
def spinner : Brain where
  instructions := #[.turn .left 0, .move 0 0]
  size_pos := by decide
  successors_lt := by decide

theorem dump_of_idle_siege : ∃ b b', start siege ⟨idler, idler⟩ 1 = .ok b ∧
    start siege ⟨spinner, idler⟩ 2 = .ok b' ∧
    (b.moment 1 0).dumpLines = (b'.moment 1 0).dumpLines ∧
    List.Forall₂ ((b.moment 1 0).AlikeAt (b'.moment 1 0)) (b.moment 1 0).layout.slots
      (b'.moment 1 0).layout.slots := by
  obtain ⟨b, b', started, started', same⟩ :
      ∃ b b', start siege ⟨idler, idler⟩ 1 = .ok b ∧ start siege ⟨spinner, idler⟩ 2 = .ok b' ∧
        (b.moment 1 0).dumpLines = (b'.moment 1 0).dumpLines :=
    ⟨_, _, rfl, rfl, by decide +kernel⟩
  exact ⟨b, b', started, started', same, (dump_shows_board started started' same).2⟩

end Battle

end Formicary
