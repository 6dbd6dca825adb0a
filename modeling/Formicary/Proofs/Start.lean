/-
Module: Formicary.Proofs.Start
Purpose: The board on which a battle begins: which cell and which ants stand in each slot, and what
  the first accounts of food and ants come to.
Main exports: Battle.settled, Battle.hatched, Battle.account_eq, Battle.muster_eq, Battle.laid,
  Battle.Begun, Battle.start_eq_ok_iff, Battle.exists_start_iff, Battle.begun_of_start
-/
import Formicary.Battle
import Formicary.Proofs.Layout

namespace Formicary

/-- An element of a filtered list comes from an element before which as many were kept. -/
theorem exists_split_of_getElem?_filterMap {α β : Type} {f : α → Option β} {l : List α} {i : Nat}
    {b : β} (found : (l.filterMap f)[i]? = some b) :
    ∃ front a back, l = front ++ a :: back ∧ f a = some b ∧ (front.filterMap f).length = i := by
  induction l generalizing i with
  | nil => simp at found
  | cons a l ih =>
    cases image : f a with
    | none =>
      rw [List.filterMap_cons_none image] at found
      obtain ⟨front, a', back, rfl, image', length⟩ := ih found
      exact ⟨a :: front, a', back, rfl, image', by rw [List.filterMap_cons_none image, length]⟩
    | some b' =>
      rw [List.filterMap_cons_some image] at found
      cases i with
      | zero =>
        rw [List.getElem?_cons_zero, Option.some.injEq] at found
        exact ⟨[], a, l, rfl, image.trans (congrArg some found), rfl⟩
      | succ i =>
        obtain ⟨front, a', back, rfl, image', length⟩ := ih found
        refine ⟨a :: front, a', back, rfl, image', ?_⟩
        rw [List.filterMap_cons_some image, List.length_cons, length]

namespace Battle

/-! ### Settling the sites of a map -/

/-- The cell of a site before which `n` ants have hatched. -/
def settled (t : Terrain) (n : Nat) : Cell :=
  { Cell.ofTerrain t with occupant := t.owner?.map fun _ => n }

/-- The ants of some sites, in the order of the sites. -/
def hatched (sites : List (Terrain × Nat)) : List Ant :=
  sites.filterMap fun site => site.1.owner?.map fun c => Ant.fresh c site.2

theorem settle_eq (cells : Array Cell) (ants : Array Ant) (t : Terrain) (slot : Nat) :
    settle (cells, ants) (t, slot) =
      (cells.setIfInBounds slot (settled t ants.size), ants ++ (hatched [(t, slot)]).toArray) := by
  cases t <;> simp [settle, settled, hatched, Terrain.owner?, Cell.ofTerrain]

section Settle

variable {cells : Array Cell} {ants : Array Ant} {sites : List (Terrain × Nat)}

theorem ants_foldl_settle :
    (sites.foldl settle (cells, ants)).2 = ants ++ (hatched sites).toArray := by
  induction sites generalizing cells ants with
  | nil => simp [hatched]
  | cons site sites ih =>
    have split : hatched (site :: sites) = hatched [site] ++ hatched sites := by
      rw [hatched, ← List.singleton_append, List.filterMap_append]
      rfl
    rw [List.foldl_cons, settle_eq, ih, split]
    simp

theorem size_foldl_settle : (sites.foldl settle (cells, ants)).1.size = cells.size := by
  induction sites generalizing cells ants with
  | nil => rfl
  | cons site sites ih => rw [List.foldl_cons, settle_eq, ih, Array.size_setIfInBounds]

/-- Sites leave the cells of other slots alone. -/
theorem cells_foldl_settle_of_notMem {slot : Nat} (other : slot ∉ sites.map Prod.snd) :
    (sites.foldl settle (cells, ants)).1[slot]? = cells[slot]? := by
  induction sites generalizing cells ants with
  | nil => rfl
  | cons site sites ih =>
    rw [List.map_cons, List.mem_cons, not_or] at other
    rw [List.foldl_cons, settle_eq, ih other.2,
      Array.getElem?_setIfInBounds_ne (Ne.symm other.1)]

/-- The last site with a slot decides on the cell of the slot. -/
theorem cells_foldl_settle {front back : List (Terrain × Nat)} {t : Terrain} {slot : Nat}
    (last : slot ∉ back.map Prod.snd) (onBoard : slot < cells.size) :
    ((front ++ (t, slot) :: back).foldl settle (cells, ants)).1[slot]? =
      some (settled t (ants.size + (hatched front).length)) := by
  have size : (front.foldl settle (cells, ants)).1.size = cells.size := size_foldl_settle
  have hatchedFront : (front.foldl settle (cells, ants)).2 = _ := ants_foldl_settle
  rw [List.foldl_append, List.foldl_cons, settle_eq, cells_foldl_settle_of_notMem last,
    Array.getElem?_setIfInBounds_self_of_lt (size ▸ onBoard), hatchedFront]
  simp

end Settle

/-! ### The first accounts -/

/-- No map has food on an anthill, so all that is entered is unclaimed. -/
theorem account_eq (w : World) : account w = .ofUnclaimed w.totalFood := by
  have entered (sites : List Site) (l : Ledger) :
      sites.foldl (fun l s => l.put s.terrain.owner? s.terrain.foodAmount) l =
        { l with unclaimed :=
            l.unclaimed + sites.foldr (fun s n => s.terrain.foodAmount + n) 0 } := by
    induction sites generalizing l with
    | nil => rfl
    | cons s sites ih =>
      have first : l.put s.terrain.owner? s.terrain.foodAmount =
          { l with unclaimed := l.unclaimed + s.terrain.foodAmount } := by
        cases s.terrain with
        | hill owner => cases owner <;> rfl
        | _ => rfl
      rw [List.foldl_cons, first, ih, List.foldr_cons, Nat.add_assoc]
  rw [account, entered]
  simp [Ledger.ofUnclaimed, World.totalFood]

theorem muster_eq (w : World) : muster w = .ofFn w.hillCount := by
  have counted (sites : List Site) (n : PerColony Nat) (c : Colony) :
      (sites.foldl (fun n s => s.terrain.owner?.elim n fun d => n.modify d (· + 1)) n).get c =
        n.get c + sites.countP fun s => decide (s.terrain.owner? = some c) := by
    induction sites generalizing n with
    | nil => rfl
    | cons s sites ih =>
      have first : (s.terrain.owner?.elim n fun colony => n.modify colony (· + 1)).get c =
          n.get c + if s.terrain.owner? = some c then 1 else 0 := by
        cases s.terrain.owner? with
        | none => rfl
        | some colony => cases colony <;> cases c <;> rfl
      rw [List.foldl_cons, ih, first, List.countP_cons]
      simp only [decide_eq_true_eq]
      omega
  apply PerColony.ext_get
  intro c
  rw [muster, counted, PerColony.get_both, PerColony.get_ofFn, Nat.zero_add, World.hillCount]

/-! ### The starting battle -/

/-- The sites of a map with their slots. -/
def laid (w : World) (l : Layout) : List (Terrain × Nat) :=
  w.sites.map fun s => (s.terrain, l.slot (Hex.ofPlace s.place))

/-- What holds of a battle at its start. -/
structure Begun (w : World) (b : Battle) : Prop where
  covers : b.layout.Covers w.places
  cells : b.cells = ((laid w b.layout).foldl settle (Array.replicate b.layout.size .rock, #[])).1
  ants : b.ants = (hatched (laid w b.layout)).toArray
  round : b.round = 0
  ledger : b.ledger = .ofUnclaimed w.totalFood
  mustered : b.mustered = .ofFn w.hillCount

theorem start_eq_ok_iff {w : World} {brains : PerColony Brain} {seed : Nat} {b : Battle} :
    start w brains seed = .ok b ↔
      ∃ l, Layout.build w.places = .ok l ∧ b = {
        layout := l, brains, cells := (board w l).1, ants := (board w l).2, seed
        dice := .ofSeed seed
        round := 0
        ledger := .ofUnclaimed w.totalFood
        mustered := .ofFn w.hillCount } := by
  cases built : Layout.build w.places with
  | error fault => simp [start, built, bind, Except.bind]
  | ok l =>
    simp [start, built, account_eq, muster_eq, bind, Except.bind, pure, Except.pure, eq_comm]

/-- A battle can begin wherever the map has a layout. -/
theorem exists_start_iff {w : World} {brains : PerColony Brain} {seed : Nat} :
    (∃ b, start w brains seed = .ok b) ↔ ∃ l, Layout.build w.places = .ok l := by
  constructor
  · rintro ⟨b, started⟩
    obtain ⟨l, built, -⟩ := start_eq_ok_iff.1 started
    exact ⟨l, built⟩
  · rintro ⟨l, built⟩
    exact ⟨_, start_eq_ok_iff.2 ⟨l, built, rfl⟩⟩

theorem begun_of_start {w : World} {brains : PerColony Brain} {seed : Nat} {b : Battle}
    (started : start w brains seed = .ok b) : Begun w b := by
  obtain ⟨l, built, rfl⟩ := start_eq_ok_iff.1 started
  have covers := Layout.covers_of_build built
  have sites : (w.sites.map Site.terrain).zip (l.slots.map Prod.snd) = laid w l := by
    rw [covers.slots, World.places, List.map_map, List.map_map, List.zip_map']
    rfl
  refine ⟨covers, ?_, ?_, rfl, rfl, rfl⟩
  · simp only [board, sites]
  · simp [board, sites, ants_foldl_settle]

theorem brains_of_start {w : World} {brains : PerColony Brain} {seed : Nat} {b : Battle}
    (started : start w brains seed = .ok b) : b.brains = brains ∧ b.dice = .ofSeed seed := by
  obtain ⟨l, -, rfl⟩ := start_eq_ok_iff.1 started
  exact ⟨rfl, rfl⟩

theorem seed_of_start {w : World} {brains : PerColony Brain} {seed : Nat} {b : Battle}
    (started : start w brains seed = .ok b) : b.seed = seed := by
  obtain ⟨l, -, rfl⟩ := start_eq_ok_iff.1 started
  rfl

namespace Begun

variable {w : World} {b : Battle} (begun : Begun w b)

include begun

theorem map_snd_laid : (laid w b.layout).map Prod.snd = b.layout.slots.map Prod.snd := by
  rw [begun.covers.slots, laid, World.places, List.map_map, List.map_map, List.map_map]
  rfl

/-- The slots of the map hold the cells of its sites. -/
theorem cellAt_of_site {front back : List (Terrain × Nat)} {t : Terrain} {slot : Nat}
    (split : laid w b.layout = front ++ (t, slot) :: back) :
    b.cellAt slot = settled t (hatched front).length := by
  have nodup : ((laid w b.layout).map Prod.snd).Nodup := begun.map_snd_laid ▸ begun.covers.nodup
  have mem : slot ∈ b.layout.slots.map Prod.snd := by
    rw [← begun.map_snd_laid, split]; simp
  rw [split, List.map_append, List.map_cons] at nodup
  have last : slot ∉ back.map Prod.snd := (List.nodup_cons.1 (List.nodup_append.1 nodup).2.1).1
  have onBoard : slot < (Array.replicate b.layout.size Cell.rock).size := by
    simpa using begun.covers.lt_size mem
  rw [cellAt, begun.cells, split, cells_foldl_settle last onBoard]
  simp

/-- The other slots are bare rock. -/
theorem cellAt_of_notMem {slot : Nat} (filler : slot ∉ b.layout.slots.map Prod.snd) :
    b.cellAt slot = .rock := by
  rw [← begun.map_snd_laid] at filler
  rw [cellAt, begun.cells, cells_foldl_settle_of_notMem filler, Array.getElem?_replicate]
  split <;> rfl

theorem exists_site_of_mem {slot : Nat} (mem : slot ∈ b.layout.slots.map Prod.snd) :
    ∃ front t back, laid w b.layout = front ++ (t, slot) :: back := by
  rw [← begun.map_snd_laid] at mem
  obtain ⟨⟨t, slot⟩, isSite, rfl⟩ := List.mem_map.1 mem
  obtain ⟨front, back, split⟩ := List.append_of_mem isSite
  exact ⟨front, t, back, split⟩

/-- An ant at the start is a fresh one on an anthill cell of its colony. -/
theorem exists_site_of_ant {id : Nat} {ant : Ant} (present : b.ant? id = some ant) :
    ∃ front t back, laid w b.layout = front ++ (t, ant.slot) :: back ∧
      t.owner? = some ant.colony ∧ ant = .fresh ant.colony ant.slot ∧
      (hatched front).length = id := by
  rw [ant?, begun.ants, List.getElem?_toArray] at present
  obtain ⟨front, ⟨t, slot⟩, back, split, hatches, length⟩ :=
    exists_split_of_getElem?_filterMap present
  obtain ⟨c, owner, rfl⟩ := Option.map_eq_some_iff.1 hatches
  exact ⟨front, t, back, split, owner, rfl, length⟩

/-- An anthill cell of the map holds the ant whose number is that of the ants before it. -/
theorem ant?_of_site {front back : List (Terrain × Nat)} {t : Terrain} {slot : Nat} {c : Colony}
    (split : laid w b.layout = front ++ (t, slot) :: back) (owner : t.owner? = some c) :
    b.ant? (hatched front).length = some (.fresh c slot) := by
  have whole : hatched (laid w b.layout) = hatched front ++ .fresh c slot :: hatched back := by
    rw [split, hatched, List.filterMap_append, List.filterMap_cons_some (b := .fresh c slot)]
    · rfl
    · rw [owner]; rfl
  rw [ant?, begun.ants, List.getElem?_toArray, whole, List.getElem?_append_right (Nat.le_refl _)]
  simp

end Begun

/-! ### A small siege -/

/-- A brain that turns for ever. -/
def idler : Brain where
  instructions := #[.turn .left 0]
  size_pos := by decide
  successors_lt := by decide

/-- A brain that steps ahead whenever it can. -/
def marcher : Brain where
  instructions := #[.move 0 0]
  size_pos := by decide
  successors_lt := by decide

/-- A black ant with red ants on five sides. The sixth side has food on it, and the red ant to the
west of it faces it. -/
def siege : World where
  width := 4
  height := 4
  sites := [
    { place := ⟨1, 1⟩, terrain := .hill .red },
    { place := ⟨2, 1⟩, terrain := .hill .red },
    { place := ⟨1, 2⟩, terrain := .hill .red },
    { place := ⟨2, 2⟩, terrain := .hill .black },
    { place := ⟨3, 2⟩, terrain := .hill .red },
    { place := ⟨1, 3⟩, terrain := .hill .red },
    { place := ⟨2, 3⟩, terrain := .food 2 }]

end Battle

end Formicary
