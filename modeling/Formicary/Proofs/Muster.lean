/-
Module: Formicary.Proofs.Muster
Purpose: What a map turns into when a battle begins on it: its cells, the filler around them, the
  ants on its hills, and the first accounts of ants and food.
Main exports: World.hills, World.provisions, Cell.Shows, Battle.SetOut, Battle.Begun.setOut,
  Battle.start_sets_out
-/
import Formicary.Proofs.Repeats
import Formicary.Proofs.Stores

namespace Formicary

/-! ### Hills and food of a map -/

namespace World

/-- The cells of the anthills with their colonies, in the map's order. -/
def hills (w : World) : List (Place × Colony) :=
  w.sites.filterMap fun s => match s.terrain with
    | .hill c => some (s.place, c)
    | _ => none

/-- The amounts of food that lie on the map, in the map's order. -/
def provisions (w : World) : List Nat :=
  w.sites.filterMap fun s => match s.terrain with
    | .food amount => some amount
    | _ => none

theorem hills_eq (w : World) :
    w.hills = w.sites.filterMap fun s => s.terrain.owner?.map fun c => (s.place, c) := by
  rw [hills]
  congr 1
  funext s
  cases s.terrain <;> rfl

theorem mem_places_of_hill {w : World} {k : Nat} {p : Place} {c : Colony}
    (hill : w.hills[k]? = some (p, c)) : p ∈ w.places := by
  rw [hills_eq] at hill
  obtain ⟨s, mem, owned⟩ := List.mem_filterMap.1 (List.mem_of_getElem? hill)
  obtain ⟨_, -, same⟩ := Option.map_eq_some_iff.1 owned
  rw [← (Prod.mk.inj same).1]
  exact List.mem_map_of_mem mem

theorem hillCount_eq (w : World) (c : Colony) :
    w.hillCount c = w.hills.countP fun h => decide (h.2 = c) := by
  rw [hillCount, hills, List.countP_filterMap]
  congr 1
  funext s
  cases s.terrain <;> simp [Terrain.owner?]

theorem totalFood_eq (w : World) : w.totalFood = w.provisions.sum := by
  rw [totalFood, provisions]
  induction w.sites with
  | nil => rfl
  | cons s sites ih =>
    rw [List.foldr_cons, ih, List.filterMap_cons]
    cases s.terrain <;> simp [Terrain.foodAmount]

end World

/-! ### Places and slots -/

namespace Layout.Covers

variable {l : Layout} {places : List Place} (covers : l.Covers places) {p : Place}

include covers

theorem find?_eq_none_iff : l.find? p = none ↔ p ∉ places := by
  constructor
  · intro unknown isPlace
    rw [covers.find?_eq isPlace] at unknown
    cases unknown
  · intro foreign
    rw [find?, List.lookup_eq_none_iff, covers.slots]
    intro entry mem
    obtain ⟨q, isPlace, rfl⟩ := List.mem_map.1 mem
    have differ : p ≠ q := fun same => foreign (same ▸ isPlace)
    simpa using differ

theorem placeAt_slot (bounded : ∀ p ∈ places, p.Bounded) (isPlace : p ∈ places) :
    l.placeAt (l.slot (Hex.ofPlace p)) = p := by
  have within := (covers.hasInside isPlace).contains
  rw [Frame.placeAt, (covers.faithful bounded).hexAt_slot _ within, Hex.toPlace_ofPlace]

end Layout.Covers

/-! ### The board -/

namespace Cell

/-- The cell has the rock, the food and the owner that go with what the map has there. -/
inductive Shows (cell : Cell) : Terrain → Prop where
  | rock (ground : cell.isRock = true) (food : cell.food = 0) (owner : cell.owner = none) :
      Shows cell .rock
  | clear (ground : cell.isRock = false) (food : cell.food = 0) (owner : cell.owner = none) :
      Shows cell .clear
  | hill (colony : Colony) (ground : cell.isRock = false) (food : cell.food = 0)
      (owner : cell.owner = some colony) : Shows cell (.hill colony)
  | food (amount : Nat) (ground : cell.isRock = false) (food : cell.food = amount)
      (owner : cell.owner = none) : Shows cell (.food amount)

/-- Neither colony has set a marker on the cell. -/
def Unmarked (cell : Cell) : Prop := ∀ c m, (cell.markers.get c).contains m = false

theorem shows_ofTerrain {cell : Cell} {t : Terrain} (rock : cell.isRock = (t == .rock))
    (food : cell.food = t.foodAmount) (owner : cell.owner = t.owner?) : cell.Shows t := by
  cases t with
  | rock => exact .rock rock food owner
  | clear => exact .clear rock food owner
  | hill colony => exact .hill colony rock food owner
  | food amount => exact .food amount rock food owner

theorem unmarked_of_empty {cell : Cell} (empty : cell.markers = .both .empty) : cell.Unmarked := by
  intro c m
  rw [empty, PerColony.get_both]
  simp [MarkerSet.contains, MarkerSet.empty]

end Cell

namespace Battle

/-- A battle has a map set out on its board, as it is before anyone has acted. -/
structure SetOut (w : World) (b : Battle) : Prop where
  /-- The cells of the map are on the board with their rock, food and owner, and unmarked. -/
  site : ∀ s ∈ w.sites, ∃ slot cell, b.layout.find? s.place = some slot ∧
    b.cells[slot]? = some cell ∧ b.cell? s.place = some cell ∧
    cell.Shows s.terrain ∧ cell.Unmarked
  /-- The map has no other cells. -/
  outside : ∀ p, b.cell? p = none ↔ p ∉ w.places
  /-- The slots of all other places are bare rock. -/
  filler : b.cells.size = b.layout.size ∧
    ∀ slot < b.layout.size, b.layout.placeAt slot ∉ w.places → ∃ cell, b.cells[slot]? = some cell ∧
      cell.Shows .rock ∧ cell.Unmarked ∧ cell.occupant = none
  /-- On each hill stands its ant, which has done nothing yet. -/
  hill : ∀ k p c, w.hills[k]? = some (p, c) → ∃ slot cell, b.layout.find? p = some slot ∧
    b.layout.placeAt slot = p ∧
    b.ant? k = some {
      colony := c, slot, state := 0, resting := 0, facing := 0, laden := false, alive := true } ∧
    b.cell? p = some cell ∧ cell.occupant = some k
  /-- There are no other ants. -/
  ants : b.ants.size = w.hills.length
  /-- Nobody else stands anywhere. -/
  occupied : ∀ slot k, (b.cellAt slot).occupant = some k →
    ∃ p c, w.hills[k]? = some (p, c) ∧ b.layout.find? p = some slot
  /-- The numbers of ants are those of the hills. -/
  numbers : ∀ c, b.mustered.get c = (w.hills.countP fun h => decide (h.2 = c)) ∧
    b.mustered.get c = w.hillCount c ∧ b.living c = w.hillCount c
  /-- All food lies around and nobody has any. -/
  food : b.ledger = { hill := ⟨0, 0⟩, carried := ⟨0, 0⟩, unclaimed := w.provisions.sum } ∧
    b.ledger.unclaimed = w.totalFood

namespace Begun

variable {w : World} {b : Battle} (begun : Begun w b)

include begun

theorem size_cells : b.cells.size = b.layout.size := by
  rw [begun.cells, size_foldl_settle, Array.size_replicate]

theorem getElem?_eq_cellAt {slot : Nat} (onBoard : slot < b.layout.size) :
    b.cells[slot]? = some (b.cellAt slot) := by
  rw [← begun.size_cells] at onBoard
  simp [cellAt, onBoard]

/-- The ants stand on the hills in the map's order. -/
theorem ants_eq : b.ants.toList =
    w.hills.map fun h => .fresh h.2 (b.layout.slot (Hex.ofPlace h.1)) := by
  have alike : (fun site : Terrain × Nat => site.1.owner?.map fun c => Ant.fresh c site.2) ∘
      (fun s : Site => (s.terrain, b.layout.slot (Hex.ofPlace s.place))) =
        fun s => (s.terrain.owner?.map fun c => (s.place, c)).map fun h =>
          .fresh h.2 (b.layout.slot (Hex.ofPlace h.1)) := by
    funext s
    simp [Option.map_map, Function.comp_def]
  rw [begun.ants, hatched, laid, World.hills_eq, List.filterMap_map, List.map_filterMap, alike]

theorem ant?_of_hill {k : Nat} {p : Place} {c : Colony} (hill : w.hills[k]? = some (p, c)) :
    b.ant? k = some (.fresh c (b.layout.slot (Hex.ofPlace p))) := by
  rw [ant?, ← Array.getElem?_toList, begun.ants_eq, List.getElem?_map, hill]
  rfl

theorem exists_hill_of_ant {k : Nat} {ant : Ant} (present : b.ant? k = some ant) :
    ∃ p c, w.hills[k]? = some (p, c) ∧ ant = .fresh c (b.layout.slot (Hex.ofPlace p)) := by
  rw [ant?, ← Array.getElem?_toList, begun.ants_eq, List.getElem?_map,
    Option.map_eq_some_iff] at present
  obtain ⟨⟨p, c⟩, hill, rfl⟩ := present
  exact ⟨p, c, hill, rfl⟩

theorem exists_settled {s : Site} (mem : s ∈ w.sites) :
    ∃ n, b.cellAt (b.layout.slot (Hex.ofPlace s.place)) = settled s.terrain n := by
  obtain ⟨front, back, split⟩ := List.append_of_mem (List.mem_map_of_mem
    (f := fun s => (s.terrain, b.layout.slot (Hex.ofPlace s.place))) mem)
  exact ⟨_, begun.cellAt_of_site split⟩

theorem cell?_of_place {p : Place} (isPlace : p ∈ w.places) :
    b.cell? p = some (b.cellAt (b.layout.slot (Hex.ofPlace p))) := by
  rw [cell?, begun.covers.find?_eq isPlace]
  rfl

theorem setOut (bounded : w.Bounded) : SetOut w b where
  site s mem := by
    have isPlace : s.place ∈ w.places := List.mem_map_of_mem mem
    have onBoard := Frame.slot_lt_size (begun.covers.hasInside isPlace).contains
    obtain ⟨n, cell⟩ := begun.exists_settled mem
    refine ⟨_, _, begun.covers.find?_eq isPlace, begun.getElem?_eq_cellAt onBoard,
      begun.cell?_of_place isPlace, ?_⟩
    rw [cell]
    exact ⟨Cell.shows_ofTerrain rfl rfl rfl, Cell.unmarked_of_empty rfl⟩
  outside p := by
    rw [cell?, Option.map_eq_none_iff]
    exact begun.covers.find?_eq_none_iff
  filler := by
    refine ⟨begun.size_cells, fun slot onBoard foreign => ?_⟩
    have offMap : slot ∉ b.layout.slots.map Prod.snd := by
      intro onMap
      obtain ⟨p, isPlace, rfl⟩ := begun.covers.mem_slots_iff.1 onMap
      rw [begun.covers.placeAt_slot bounded isPlace] at foreign
      exact foreign isPlace
    refine ⟨_, begun.getElem?_eq_cellAt onBoard, ?_⟩
    rw [begun.cellAt_of_notMem offMap]
    exact ⟨.rock rfl rfl rfl, Cell.unmarked_of_empty rfl, rfl⟩
  hill k p c hill := by
    have isPlace := World.mem_places_of_hill hill
    have present := begun.ant?_of_hill hill
    exact ⟨_, _, begun.covers.find?_eq isPlace, begun.covers.placeAt_slot bounded isPlace, present,
      begun.cell?_of_place isPlace, (begun.sound.stands k _ present rfl).2.2⟩
  ants := by rw [← Array.length_toList, begun.ants_eq, List.length_map]
  occupied slot k occupied := by
    obtain ⟨ant, present, -, rfl⟩ := begun.sound.named slot k occupied
    obtain ⟨p, c, hill, rfl⟩ := begun.exists_hill_of_ant present
    exact ⟨p, c, hill, begun.covers.find?_eq (World.mem_places_of_hill hill)⟩
  numbers c := by
    rw [begun.mustered, PerColony.get_ofFn]
    exact ⟨World.hillCount_eq w c, rfl, begun.living_eq c⟩
  food := by
    rw [begun.ledger, ← World.totalFood_eq]
    exact ⟨rfl, rfl⟩

end Begun

/-- On a map that has no place twice a battle begins, whatever the brains and the seed, unless the
map has no cells; and it begins with the map set out on its board. -/
theorem start_sets_out {w : World} (bounded : w.Bounded) (distinct : w.places.Nodup)
    (brains : PerColony Brain) (seed : Nat) :
    (w.sites = [] → start w brains seed = .error .empty) ∧
      (w.sites ≠ [] → ∃ b, start w brains seed = .ok b ∧ SetOut w b) := by
  constructor
  · intro empty
    have refused : Layout.build w.places = .error .empty :=
      Layout.build_eq_empty_iff.2 (List.map_eq_nil_iff.2 empty)
    rw [start, refused]
    rfl
  · intro some
    have laidOut : ∃ l, Layout.build w.places = .ok l :=
      Layout.exists_build_iff.2 ⟨fun none => some (List.map_eq_nil_iff.1 none), distinct⟩
    obtain ⟨b, started⟩ := exists_start_iff.2 laidOut
    exact ⟨b, started, (begun_of_start started).setOut bounded⟩

/-- The siege begins with six ants and two pieces of food. The fourth hill is the black one in the
middle, and its ant has number three; all the food lies on the one cell to the south-east of it. -/
theorem siege_set_out :
    siege.Bounded ∧ siege.places.Nodup ∧ siege.hills[3]? = some (⟨2, 2⟩, .black) ∧
      siege.provisions = [2] ∧
      ∃ b slot cell, start siege ⟨marcher, idler⟩ 1 = .ok b ∧ b.ants.size = 6 ∧
        b.ant? 3 = some (.fresh .black slot) ∧ b.layout.placeAt slot = ⟨2, 2⟩ ∧
        b.cell? ⟨2, 3⟩ = some cell ∧ cell.food = 2 ∧ cell.owner = none ∧
        b.ledger.unclaimed = 2 ∧ b.mustered = ⟨5, 1⟩ := by
  have bounded : siege.Bounded := by decide
  have distinct : siege.places.Nodup := by decide
  have hill : siege.hills[3]? = some (⟨2, 2⟩, .black) := by decide
  have heap : ⟨⟨2, 3⟩, .food 2⟩ ∈ siege.sites := by decide
  obtain ⟨b, started, setOut⟩ := (start_sets_out bounded distinct ⟨marcher, idler⟩ 1).2 (by decide)
  obtain ⟨slot, -, -, place, present, -⟩ := setOut.hill 3 _ _ hill
  obtain ⟨-, cell, -, -, found, shows, -⟩ := setOut.site _ heap
  have mustered : b.mustered = ⟨5, 1⟩ := PerColony.ext_get fun c => by
    rw [(setOut.numbers c).1]
    cases c <;> decide
  refine ⟨bounded, distinct, hill, by decide, b, slot, cell, started, setOut.ants, present, place,
    found, ?_⟩
  cases shows with
  | food _ ground food owner => exact ⟨food, owner, by rw [setOut.food.1]; decide, mustered⟩

end Battle

end Formicary
