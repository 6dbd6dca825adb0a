/-
Module: Formicary.Proofs.Rectangle
Purpose: The maps that are read from texts are rectangles of cells, and battles can begin on them.
Main exports: Place.rectangle, World.get?_eq_some_iff, World.Depicts, World.ofGrid_depicts,
  Battle.Begun.ant_of_hill, World.maps_are_playable
-/
import Mathlib.Data.List.Nodup
import Formicary.Proofs.MapText
import Formicary.Proofs.Slots
import Formicary.Proofs.Stores

namespace Formicary

open Text

/-! ### Rectangles of places -/

/-- The places of a rectangle at the origin, row by row. -/
def Place.rectangle (width height : Nat) : List Place :=
  (List.range height).flatMap fun (y : Nat) => (List.range width).map fun (x : Nat) => { x, y }

namespace Place

theorem mem_rectangle {width height : Nat} {p : Place} :
    p ∈ rectangle width height ↔ 0 ≤ p.x ∧ p.x < width ∧ 0 ≤ p.y ∧ p.y < height := by
  simp only [rectangle, List.mem_flatMap, List.mem_map, List.mem_range]
  constructor
  · rintro ⟨y, low, x, left, rfl⟩
    dsimp only
    omega
  · rintro ⟨left, right, above, below⟩
    refine ⟨p.y.toNat, by omega, p.x.toNat, by omega, ?_⟩
    rw [Int.toNat_of_nonneg left, Int.toNat_of_nonneg above]

theorem length_rectangle (width height : Nat) :
    (rectangle width height).length = width * height := by
  simp [rectangle, Nat.mul_comm]

theorem nodup_rectangle (width height : Nat) : (rectangle width height).Nodup := by
  rw [rectangle, List.nodup_flatMap]
  constructor
  · intro y _
    refine List.nodup_range.map fun x x' same => ?_
    exact Int.ofNat.inj (congrArg Place.x same)
  · refine List.nodup_range.imp fun {y y'} differ => ?_
    rintro p here there
    obtain ⟨x, -, rfl⟩ := List.mem_map.1 here
    obtain ⟨x', -, same⟩ := List.mem_map.1 there
    exact differ (Int.ofNat.inj (congrArg Place.y same)).symm

end Place

namespace World

/-! ### Maps without a place twice -/

section Places

variable {w : World} {p : Place}

/-- A map has nothing exactly where it has no place. -/
theorem get?_eq_none_iff : w.get? p = none ↔ p ∉ w.places := by
  simp only [get?, Option.map_eq_none_iff, List.find?_eq_none, decide_eq_true_eq, places,
    List.mem_map, not_exists, not_and]

theorem get?_eq_some_iff (nodup : w.places.Nodup) {t : Terrain} :
    w.get? p = some t ↔ { place := p, terrain := t } ∈ w.sites := by
  rw [get?]
  constructor
  · intro found
    obtain ⟨s, first, rfl⟩ := Option.map_eq_some_iff.1 found
    have here : s.place = p := by simpa using List.find?_some first
    rw [← here]
    exact List.mem_of_find?_eq_some first
  · intro isSite
    cases first : w.sites.find? fun s => decide (s.place = p) with
    | none => simpa using List.find?_eq_none.1 first _ isSite
    | some s =>
      have here : s.place = p := by simpa using List.find?_some first
      have same := List.inj_on_of_nodup_map nodup (List.mem_of_find?_eq_some first) isSite here
      rw [same]
      rfl

end Places

/-! ### Maps made of rows -/

theorem map_place_rowSites (y x : Nat) (row : List Terrain) :
    (rowSites y x row).map Site.place =
      (List.range' x row.length).map fun (column : Nat) => { x := column, y } := by
  induction row generalizing x with
  | nil => rfl
  | cons t row ih => rw [rowSites_cons, List.map_cons, ih, List.length_cons, List.range'_succ]; rfl

theorem map_terrain_rowSites (y x : Nat) (row : List Terrain) :
    (rowSites y x row).map Site.terrain = row := by
  induction row generalizing x with
  | nil => rfl
  | cons t row ih => rw [rowSites_cons, List.map_cons, ih]

theorem map_place_gridSites {width : Nat} (y : Nat) {grid : List (List Terrain)}
    (wide : ∀ row ∈ grid, row.length = width) :
    (gridSites y grid).map Site.place =
      (List.range' y grid.length).flatMap fun (y : Nat) =>
        (List.range width).map fun (x : Nat) => { x, y } := by
  induction grid generalizing y with
  | nil => rfl
  | cons row grid ih =>
    obtain ⟨first, rest⟩ := List.forall_mem_cons.1 wide
    rw [gridSites_cons, List.map_append, map_place_rowSites, ih _ rest, List.length_cons,
      List.range'_succ, List.flatMap_cons, first, List.range_eq_range']

theorem map_terrain_gridSites (y : Nat) (grid : List (List Terrain)) :
    (gridSites y grid).map Site.terrain = grid.flatten := by
  induction grid generalizing y with
  | nil => rfl
  | cons row grid ih =>
    rw [gridSites_cons, List.map_append, map_terrain_rowSites, ih, List.flatten_cons]

theorem mem_rowSites {y x column : Nat} {row : List Terrain} {t : Terrain}
    (here : row[column]? = some t) :
    { place := { x := ↑(x + column), y }, terrain := t } ∈ rowSites y x row := by
  rw [rowSites, List.mem_map]
  exact ⟨(t, x + column), List.mem_zipIdx_iff_le_and_getElem?_sub.2 (by simpa using here), rfl⟩

theorem mem_gridSites {y line column : Nat} {grid : List (List Terrain)} {row : List Terrain}
    {t : Terrain} (isRow : grid[line]? = some row) (here : row[column]? = some t) :
    { place := { x := column, y := ↑(y + line) }, terrain := t } ∈ gridSites y grid := by
  induction grid generalizing y line with
  | nil => simp at isRow
  | cons first grid ih =>
    rw [gridSites_cons, List.mem_append]
    cases line with
    | zero =>
      cases isRow
      left
      simpa using mem_rowSites (y := y) (x := 0) here
    | succ line =>
      right
      simpa [Nat.add_assoc, Nat.add_comm 1] using ih (y := y + 1) isRow

/-! ### The map of a text -/

/-- A map that is a rectangle with the terrains of a grid, and nothing outside of it. -/
structure Depicts (w : World) (width height : Nat) (grid : List (List Terrain)) : Prop where
  declaredWidth : w.width = width
  declaredHeight : w.height = height
  size : w.sites.length = width * height
  places : w.places = Place.rectangle width height
  nodup : w.places.Nodup
  inside : ∀ x < width, ∀ y < height, ∃ row t, grid[y]? = some row ∧ row[x]? = some t ∧
    w.get? { x, y } = some t
  outside : ∀ p : Place, ¬(0 ≤ p.x ∧ p.x < width ∧ 0 ≤ p.y ∧ p.y < height) → w.get? p = none

theorem ofGrid_depicts {width height : Nat} {grid : List (List Terrain)}
    (high : grid.length = height) (wide : ∀ row ∈ grid, row.length = width) :
    (ofGrid width height grid).Depicts width height grid := by
  have places : (ofGrid width height grid).places = Place.rectangle width height := by
    rw [World.places, ofGrid, map_place_gridSites 0 wide, high, ← List.range_eq_range']
    rfl
  have nodup : (ofGrid width height grid).places.Nodup :=
    places ▸ Place.nodup_rectangle width height
  refine ⟨rfl, rfl, ?size, places, nodup, ?inside, ?outside⟩
  case size =>
    rw [← Place.length_rectangle, ← places, World.places, List.length_map]
  case inside =>
    intro x left y above
    have isRow : grid[y]? = some grid[y] := List.getElem?_eq_getElem (high ▸ above)
    have long : x < grid[y].length := by rwa [wide _ (List.getElem_mem _)]
    have here : grid[y][x]? = some grid[y][x] := List.getElem?_eq_getElem long
    refine ⟨grid[y], grid[y][x], isRow, here, (get?_eq_some_iff nodup).2 ?_⟩
    have isSite := mem_gridSites (y := 0) isRow here
    rwa [Nat.zero_add] at isSite
  case outside =>
    intro p beyond
    rwa [get?_eq_none_iff, places, Place.mem_rectangle]

theorem hillCount_ofGrid (width height : Nat) (grid : List (List Terrain)) (c : Colony) :
    (ofGrid width height grid).hillCount c = grid.flatten.count (.hill c) := by
  have owned (t : Terrain) : decide (t.owner? = some c) = (t == .hill c) := by
    cases t <;> simp [Terrain.owner?, beq_eq_decide]
  rw [hillCount, ofGrid, ← map_terrain_gridSites 0 grid, List.count, List.countP_map]
  simp only [owned]
  rfl

end World

/-! ### The start of a battle on it -/

namespace Battle.Begun

variable {w : World} {b : Battle} (begun : Begun w b)

include begun

/-- On every anthill cell of the map stands an ant of the colony that owns it. -/
theorem ant_of_hill {p : Place} {c : Colony}
    (hill : { place := p, terrain := .hill c } ∈ w.sites) :
    ∃ slot ant, b.layout.find? p = some slot ∧ b.occupant? slot = some ant ∧
      ant = .fresh c slot := by
  have onMap : (.hill c, b.layout.slot (Hex.ofPlace p)) ∈ laid w b.layout :=
    List.mem_map_of_mem (f := fun s => (s.terrain, b.layout.slot (Hex.ofPlace s.place))) hill
  obtain ⟨front, back, split⟩ := List.append_of_mem onMap
  refine ⟨_, _, begun.covers.find?_eq (List.mem_map_of_mem hill), ?_, rfl⟩
  rw [occupant?, begun.cellAt_of_site split]
  exact begun.ant?_of_site split rfl

/-- At the start all ants live. -/
theorem size_ants : b.ants.size = b.living .red + b.living .black := by
  rw [← Array.length_toList, List.length_eq_countP_add_countP fun a => a.alive && a.colony == .red,
    living, living, ← Array.countP_toList, ← Array.countP_toList, begun.ants]
  congr 1
  refine List.countP_congr fun a mem => ?_
  obtain ⟨⟨t, slot⟩, -, hatches⟩ := List.mem_filterMap.1 mem
  obtain ⟨c, -, rfl⟩ := Option.map_eq_some_iff.1 hatches
  cases c <;> simp [Ant.fresh]

end Battle.Begun

/-- A text is read exactly if its lines, without blanks around them, are the width, the height and
the rows of a map. What is read is that rectangle, and whatever the brains and the seed, a battle
can begin on it, with an ant on each cell of an anthill and no others. -/
theorem World.maps_are_playable (text : String) :
    ((∃ w, read text = .ok w) ↔ ∃ width height grid, MapText text width height grid) ∧
    ∀ width height grid, MapText text width height grid →
      ∃ w, read text = .ok w ∧ w.Depicts width height grid ∧
        (∃ l, Layout.build w.places = .ok l) ∧
        ∀ brains seed, ∃ b, Battle.start w brains seed = .ok b ∧
          (∀ c, b.living c = grid.flatten.count (.hill c)) ∧
          b.ants.size = grid.flatten.count (.hill .red) + grid.flatten.count (.hill .black) ∧
          ∀ p c, w.get? p = some (.hill c) →
            ∃ slot ant, b.layout.find? p = some slot ∧ b.occupant? slot = some ant ∧
              ant = .fresh c slot := by
  constructor
  · constructor
    · rintro ⟨w, found⟩
      obtain ⟨width, height, grid, shown, -⟩ := read_eq_ok_iff.1 found
      exact ⟨width, height, grid, shown⟩
    · rintro ⟨width, height, grid, shown⟩
      exact ⟨_, read_eq_ok_iff.2 ⟨width, height, grid, shown, rfl⟩⟩
  · intro width height grid shown
    have depicts := ofGrid_depicts shown.length_grid shown.length_row
    have layout : ∃ l, Layout.build (ofGrid width height grid).places = .ok l := by
      refine Layout.exists_build_iff.2 ⟨?_, depicts.nodup⟩
      rw [depicts.places, ← List.length_pos_iff, Place.length_rectangle]
      exact Nat.mul_pos shown.width_pos shown.height_pos
    refine ⟨_, read_eq_ok_iff.2 ⟨width, height, grid, shown, rfl⟩, depicts, layout, ?_⟩
    intro brains seed
    obtain ⟨b, started⟩ : ∃ b, Battle.start (ofGrid width height grid) brains seed = .ok b :=
      Battle.exists_start_iff.2 layout
    have begun := Battle.begun_of_start started
    refine ⟨b, started, fun c => ?_, ?_, fun p c hill => ?_⟩
    · rw [begun.living_eq, hillCount_ofGrid]
    · rw [begun.size_ants, begun.living_eq, begun.living_eq, hillCount_ofGrid, hillCount_ofGrid]
    · exact begun.ant_of_hill ((get?_eq_some_iff depicts.nodup).1 hill)

/-- A map whose width has a sign, with indented rows, a carriage return and blank lines after it. -/
theorem World.indented_map_is_playable :
    MapText "+3\r\n2\n # + 5 \n  . - #\n \n" 3 2
        [[.rock, .hill .red, .food 5], [.clear, .hill .black, .rock]] ∧
      ∃ w, read "+3\r\n2\n # + 5 \n  . - #\n \n" = .ok w ∧ w.places.length = 6 ∧
        w.get? ⟨1, 1⟩ = some (.hill .black) ∧ w.get? ⟨1, 2⟩ = none ∧
        ∃ b, Battle.start w ⟨Battle.marcher, Battle.idler⟩ 1 = .ok b ∧ b.living .black = 1 ∧
          b.ants.size = 2 := by
  have upper : words " # + 5 ".toList = ["#", "+", "5"] := by cbv
  have lower : words "  . - #".toList = [".", "-", "#"] := by cbv
  have shown : MapText "+3\r\n2\n # + 5 \n  . - #\n \n" 3 2
      [[.rock, .hill .red, .food 5], [.clear, .hill .black, .rock]] := by
    refine ⟨"+3\r".toList, "2".toList, [" # + 5 ".toList, "  . - #".toList], by cbv,
      readWord?_eq_some_iff.1 (by cbv), readWord?_eq_some_iff.1 (by cbv), by decide, by decide,
      rfl, .cons ⟨by rw [upper]; rfl, ?_⟩ (.cons ⟨by rw [lower]; rfl, ?_⟩ .nil)⟩
    · rw [upper]
      exact .cons .rock (.cons .redHill (.cons (Terrain.read?_eq_some_iff.1 (by decide)) .nil))
    · rw [lower]
      exact .cons .clear (.cons .blackHill (.cons .rock .nil))
  obtain ⟨w, found, depicts, -, playable⟩ := (maps_are_playable _).2 3 2 _ shown
  obtain ⟨b, started, living, size, -⟩ := playable ⟨Battle.marcher, Battle.idler⟩ 1
  obtain ⟨row, t, isRow, here, inside⟩ := depicts.inside 1 (by decide) 1 (by decide)
  cases isRow
  cases here
  refine ⟨shown, w, found, ?_, inside, depicts.outside _ (by decide), b, started, ?_, ?_⟩
  · rw [depicts.places, Place.length_rectangle]
  · rw [living]
    decide
  · rw [size]
    decide

end Formicary
