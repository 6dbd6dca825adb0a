/-
Module: Formicary.Proofs.Stores
Purpose: The account of the food is that of the board at all moments of a battle, and food comes
  from nothing but the dead.
Main exports: Battle.foodOn, Battle.carriers, Battle.Trade, Battle.Deed.trade, Battle.Balanced,
  Battle.ledger_mirrors_board, Battle.food_conserved
-/
import Formicary.Proofs.Occupancy

namespace Formicary

/-! ### Sums and counts over a changed list -/

section Lists

variable {α : Type}

/-- Changing one element changes a sum by the difference of that element's terms. -/
theorem sum_map_modify (g : α → Nat) (f : α → α) (xs : List α) (i : Nat) :
    ((xs.modify i f).map g).sum + (xs[i]?.map g).getD 0 =
      (xs.map g).sum + (xs[i]?.map (g ∘ f)).getD 0 := by
  induction xs generalizing i with
  | nil => simp
  | cons x xs ih =>
    cases i with
    | zero => simp; omega
    | succ i =>
      have rest := ih i
      simp only [List.modify_succ_cons, List.map_cons, List.sum_cons, List.getElem?_cons_succ]
      omega

/-- Changing one element changes a count by whether that element counts. -/
theorem countP_modify (p : α → Bool) (f : α → α) (xs : List α) (i : Nat) :
    (xs.modify i f).countP p + (xs[i]?.map fun x => (p x).toNat).getD 0 =
      xs.countP p + (xs[i]?.map fun x => (p (f x)).toNat).getD 0 := by
  induction xs generalizing i with
  | nil => simp
  | cons x xs ih =>
    cases i with
    | zero => cases kept : p x <;> cases changed : p (f x) <;> simp [*]
    | succ i =>
      have rest := ih i
      simp only [List.modify_succ_cons, List.countP_cons, List.getElem?_cons_succ]
      omega

end Lists

/-- The food on a cell that counts for an owner. -/
def Cell.share (owner : Option Colony) (c : Cell) : Nat := if c.owner = owner then c.food else 0

theorem Cell.share_rock (o : Option Colony) : Cell.rock.share o = 0 := ite_self 0

namespace Battle

open Relation (ReflTransGen)

/-! ### Stores -/

/-- Food on all cells with the given owner. -/
def foodOn (b : Battle) (owner : Option Colony) : Nat :=
  (b.cells.toList.map (Cell.share owner)).sum

/-- Number of living ants of a colony that carry food. -/
def carriers (b : Battle) (c : Colony) : Nat :=
  b.ants.countP fun a => a.alive && a.colony == c && a.laden

section Changes

variable {b : Battle} {slot id : Nat} {ant : Ant}

@[simp] theorem foodOn_changeAnt (f : Ant → Ant) (o : Option Colony) :
    (b.changeAnt id f).foodOn o = b.foodOn o := rfl

@[simp] theorem foodOn_changeLedger (f : Ledger → Ledger) (o : Option Colony) :
    (b.changeLedger f).foodOn o = b.foodOn o := rfl

/-- The food on the cells of an owner changes as the food on one of them. -/
theorem foodOn_changeCell {f : Cell → Cell} {m n : Nat} (same : ∀ c, (f c).owner = c.owner)
    (onBoard : slot < b.cells.size)
    (moved : (f (b.cellAt slot)).food + m = (b.cellAt slot).food + n) (o : Option Colony) :
    (b.changeCell slot f).foodOn o + (if (b.cellAt slot).owner = o then m else 0) =
      b.foodOn o + if (b.cellAt slot).owner = o then n else 0 := by
  have change := sum_map_modify (Cell.share o) f b.cells.toList slot
  have change : (b.changeCell slot f).foodOn o +
        (if (b.cellAt slot).owner = o then (b.cellAt slot).food else 0) =
      b.foodOn o + if (b.cellAt slot).owner = o then (f (b.cellAt slot)).food else 0 := by
    simpa [foodOn, Cell.share, changeCell, cellAt, onBoard, same] using change
  split at change
  · rename_i mine
    rw [if_pos mine, if_pos mine]
    omega
  · rename_i foreign
    rwa [if_neg foreign, if_neg foreign]

theorem foodOn_changeCell_of_same (o : Option Colony) {f : Cell → Cell}
    (same : ∀ c, (f c).owner = c.owner ∧ (f c).food = c.food) :
    (b.changeCell slot f).foodOn o = b.foodOn o := by
  have change := sum_map_modify (Cell.share o) f b.cells.toList slot
  have kept : Cell.share o ∘ f = Cell.share o := by
    funext c
    rw [Function.comp, Cell.share, (same c).1, (same c).2, ← Cell.share]
  rw [kept] at change
  simpa [foodOn, changeCell] using change

/-- The number of ants with a property changes with the property of one of them. -/
theorem countP_changeAnt (p : Ant → Bool) (f : Ant → Ant) (present : b.ant? id = some ant) :
    (b.changeAnt id f).ants.countP p + (p ant).toNat =
      b.ants.countP p + (p (f ant)).toNat := by
  have change := countP_modify p f b.ants.toList id
  have found : b.ants.toList[id]? = some ant := by simpa [ant?] using present
  rw [found] at change
  simpa [changeAnt, ← Array.countP_toList] using change

theorem countP_changeAnt_of_same (p : Ant → Bool) {f : Ant → Ant} (same : ∀ a, p (f a) = p a) :
    (b.changeAnt id f).ants.countP p = b.ants.countP p := by
  have change := countP_modify p f b.ants.toList id
  simpa [changeAnt, ← Array.countP_toList, same] using change

theorem toNat_beq (c d : Colony) : (c == d).toNat = if c = d then 1 else 0 := by
  cases c <;> cases d <;> rfl

theorem foodOn_take (food : 0 < (b.cellAt ant.slot).food) (onBoard : ant.slot < b.cells.size)
    (o : Option Colony) :
    (b.take id ant).foodOn o + (if (b.cellAt ant.slot).owner = o then 1 else 0) = b.foodOn o := by
  have change := foodOn_changeCell (f := fun cell => { cell with food := cell.food - 1 })
    (n := 0) (fun _ => rfl) onBoard (Nat.sub_add_cancel food) o
  rw [take, foodOn_changeAnt, foodOn_changeLedger, change, ite_self, Nat.add_zero]

theorem foodOn_put (onBoard : ant.slot < b.cells.size) (o : Option Colony) :
    (b.put id ant).foodOn o = b.foodOn o + if (b.cellAt ant.slot).owner = o then 1 else 0 := by
  have change := foodOn_changeCell (f := fun cell => { cell with food := cell.food + 1 })
    (m := 0) (fun _ => rfl) onBoard rfl o
  rw [put, foodOn_changeAnt, foodOn_changeLedger, ← change, ite_self, Nat.add_zero]

theorem foodOn_kill (present : b.ant? id = some ant) (onBoard : ant.slot < b.cells.size)
    (o : Option Colony) :
    (b.kill id).foodOn o =
      b.foodOn o + if (b.cellAt ant.slot).owner = o then corpseFood + ant.laden.toNat else 0 := by
  have change := foodOn_changeCell
    (b := b.changeAnt id fun a => { a with alive := false, laden := false }) (m := 0)
    (f := fun c => { c with occupant := none, food := c.food + (corpseFood + ant.laden.toNat) })
    (fun _ => rfl) onBoard rfl o
  rw [foodOn_changeAnt, cellAt_changeAnt] at change
  rw [kill_eq present, foodOn_changeLedger, ← change, ite_self, Nat.add_zero]

theorem carriers_take (present : b.ant? id = some ant) (alive : ant.alive)
    (unladen : ant.laden = false) (c : Colony) :
    (b.take id ant).carriers c = b.carriers c + if ant.colony = c then 1 else 0 := by
  have change := countP_changeAnt (fun a => a.alive && a.colony == c && a.laden)
    (fun a => { a with laden := true }) present
  simp only [alive, unladen, Bool.true_and, Bool.and_true, Bool.and_false, toNat_beq] at change
  exact change

theorem carriers_put (present : b.ant? id = some ant) (alive : ant.alive) (laden : ant.laden)
    (c : Colony) :
    (b.put id ant).carriers c + (if ant.colony = c then 1 else 0) = b.carriers c := by
  have change := countP_changeAnt (fun a => a.alive && a.colony == c && a.laden)
    (fun a => { a with laden := false }) present
  simp only [alive, laden, Bool.true_and, Bool.and_true, Bool.and_false, toNat_beq] at change
  exact change

theorem carriers_kill (present : b.ant? id = some ant) (alive : ant.alive) (c : Colony) :
    (b.kill id).carriers c + (if ant.colony = c then ant.laden.toNat else 0) = b.carriers c := by
  have change := countP_changeAnt (fun a => a.alive && a.colony == c && a.laden)
    (fun a => { a with alive := false, laden := false }) present
  simp only [alive, Bool.true_and, Bool.false_and, Bool.toNat_false, Nat.add_zero] at change
  rw [kill_eq present]
  by_cases mine : ant.colony = c
  · rw [beq_iff_eq.2 mine, Bool.true_and] at change
    rwa [if_pos mine]
  · rw [beq_eq_false_iff_ne.2 mine, Bool.false_and] at change
    rwa [if_neg mine]

theorem living_kill (present : b.ant? id = some ant) (alive : ant.alive) (c : Colony) :
    (b.kill id).living c + (if ant.colony = c then 1 else 0) = b.living c := by
  have change := countP_changeAnt (fun a => a.alive && a.colony == c)
    (fun a => { a with alive := false, laden := false }) present
  simp only [alive, Bool.true_and, Bool.false_and, toNat_beq] at change
  rw [kill_eq present]
  exact change

end Changes

/-! ### Trades -/

/-- What an elementary change does to the stores: nothing, or a living ant takes up or puts down a
piece of food, or an ant dies and leaves its remains on its cell. -/
inductive Trade (b b' : Battle) : Prop where
  | keep (lying : ∀ o, b'.foodOn o = b.foodOn o) (carried : ∀ d, b'.carriers d = b.carriers d)
      (living : ∀ d, b'.living d = b.living d) (ledger : b'.ledger = b.ledger)
  | take (c : Colony) (owner : Option Colony)
      (lying : ∀ o, b'.foodOn o + (if owner = o then 1 else 0) = b.foodOn o)
      (carried : ∀ d, b'.carriers d = b.carriers d + if c = d then 1 else 0)
      (living : ∀ d, b'.living d = b.living d)
      (ledger : b'.ledger = (b.ledger.take owner 1).load c)
  | put (c : Colony) (owner : Option Colony)
      (lying : ∀ o, b'.foodOn o = b.foodOn o + if owner = o then 1 else 0)
      (carried : ∀ d, b'.carriers d + (if c = d then 1 else 0) = b.carriers d)
      (living : ∀ d, b'.living d = b.living d)
      (ledger : b'.ledger = (b.ledger.unload c).put owner 1)
  | die (c : Colony) (laden : Bool) (owner : Option Colony)
      (lying : ∀ o, b'.foodOn o =
        b.foodOn o + if owner = o then corpseFood + laden.toNat else 0)
      (carried : ∀ d, b'.carriers d + (if c = d then laden.toNat else 0) = b.carriers d)
      (living : ∀ d, b'.living d + (if c = d then 1 else 0) = b.living d)
      (ledger : b'.ledger =
        if laden then (b.ledger.put owner (corpseFood + laden.toNat)).unload c
        else b.ledger.put owner (corpseFood + laden.toNat))

/-- A change of an ant that lets it live and keep its food is no trade. -/
theorem Trade.of_changeAnt {b : Battle} {id : Nat} {f : Ant → Ant}
    (same : ∀ a, (f a).alive = a.alive ∧ (f a).colony = a.colony ∧ (f a).laden = a.laden) :
    Trade b (b.changeAnt id f) :=
  .keep (fun _ => rfl)
    (fun _ => countP_changeAnt_of_same _ fun a => by
      rw [(same a).1, (same a).2.1, (same a).2.2])
    (fun _ => countP_changeAnt_of_same _ fun a => by rw [(same a).1, (same a).2.1]) rfl

theorem Quiet.trade {b b' : Battle} (sound : b.Sound) (change : Quiet b b') : Trade b b' := by
  cases change with
  | rest => exact .of_changeAnt fun _ => ⟨rfl, rfl, rfl⟩
  | think => exact .of_changeAnt fun _ => ⟨rfl, rfl, rfl⟩
  | mark =>
    exact .keep (fun o => foodOn_changeCell_of_same o fun _ => ⟨rfl, rfl⟩) (fun _ => rfl)
      (fun _ => rfl) rfl
  | take present alive unladen food =>
    exact .take _ _ (foodOn_take food (sound.onBoard present alive))
      (carriers_take present alive unladen) (fun _ => countP_changeAnt_of_same _ fun _ => rfl) rfl
  | put present alive laden =>
    exact .put _ _ (foodOn_put (sound.onBoard present alive)) (carriers_put present alive laden)
      (fun _ => countP_changeAnt_of_same _ fun _ => rfl) rfl
  | turn => exact .of_changeAnt fun _ => ⟨rfl, rfl, rfl⟩
  | roll => exact .keep (fun _ => rfl) (fun _ => rfl) (fun _ => rfl) rfl
  | pass => exact .keep (fun _ => rfl) (fun _ => rfl) (fun _ => rfl) rfl

theorem trade_relocate (b : Battle) (id : Nat) (ant : Ant) (target : Nat) :
    Trade b (b.relocate id ant target) := by
  refine .keep (fun o => ?_) (fun _ => countP_changeAnt_of_same _ fun _ => rfl)
    (fun _ => countP_changeAnt_of_same _ fun _ => rfl) rfl
  calc (b.relocate id ant target).foodOn o
      = ((b.changeCell ant.slot fun cell => { cell with occupant := none }).changeCell target
          fun cell => { cell with occupant := some id }).foodOn o := rfl
    _ = (b.changeCell ant.slot fun cell => { cell with occupant := none }).foodOn o :=
      foodOn_changeCell_of_same o fun _ => ⟨rfl, rfl⟩
    _ = b.foodOn o := foodOn_changeCell_of_same o fun _ => ⟨rfl, rfl⟩

theorem Deed.trade {b b' : Battle} (sound : b.Sound) (deed : Deed b b') : Trade b b' := by
  cases deed with
  | quiet change => exact change.trade sound
  | move => exact trade_relocate b _ _ _
  | @die slot id named surrounded =>
    obtain ⟨ant, present, alive, rfl⟩ := sound.named slot id named
    refine .die ant.colony ant.laden (b.cellAt ant.slot).owner
      (foodOn_kill present (sound.onBoard present alive)) (carriers_kill present alive)
      (living_kill present alive) ?_
    rw [kill_eq present]
    rfl

/-! ### The account of the food -/

/-- The account says what lies on the cells and what the ants carry. -/
structure Balanced (b : Battle) : Prop where
  lying : ∀ o, b.ledger.lying o = b.foodOn o
  carried : ∀ c, b.ledger.carried.get c = b.carriers c

theorem Trade.balanced {b b' : Battle} (balanced : b.Balanced) (trade : Trade b b') :
    b'.Balanced := by
  cases trade with
  | keep lying carried living ledger =>
    constructor
    · intro o
      rw [ledger, lying, balanced.lying]
    · intro d
      rw [ledger, carried, balanced.carried]
  | take c owner lying carried living ledger =>
    constructor
    · intro o
      rw [ledger, Ledger.lying_load, Ledger.lying_take, balanced.lying, ← lying o,
        Nat.add_sub_cancel]
    · intro d
      rw [ledger, Ledger.carried_load, Ledger.carried_take, balanced.carried, carried]
  | put c owner lying carried living ledger =>
    constructor
    · intro o
      rw [ledger, Ledger.lying_put, Ledger.lying_unload, balanced.lying, lying]
    · intro d
      rw [ledger, Ledger.carried_put, Ledger.carried_unload, balanced.carried, ← carried d,
        Nat.add_sub_cancel]
  | die c laden owner lying carried living ledger =>
    constructor
    · intro o
      rw [ledger, lying]
      cases laden <;> simp [balanced.lying]
    · intro d
      rw [ledger, ← Nat.add_sub_cancel (b'.carriers d) (if c = d then laden.toNat else 0), carried]
      cases laden <;> simp [balanced.carried]

/-- The food there would be if all ants died. -/
def worth (b : Battle) : Nat :=
  b.ledger.total + 3 * (b.living .red + b.living .black)

/-- Whatever belongs to an owner belongs to one colony, to the other, or to neither. -/
theorem sum_owner (owner : Option Colony) (n : Nat) :
    (if owner = some .red then n else 0) + (if owner = some .black then n else 0) +
      (if owner = none then n else 0) = n := by
  rcases owner with _ | _ | _ <;> simp

theorem sum_colony (c : Colony) (n : Nat) :
    (if c = .red then n else 0) + (if c = .black then n else 0) = n := by
  cases c <;> simp

/-- What is taken up is carried, what is put down lies, and what a death adds to the board it takes
from what the living are worth. -/
theorem Trade.worth_eq {b b' : Battle} (balanced : b.Balanced) (trade : Trade b b') :
    b'.worth = b.worth := by
  have balanced' := trade.balanced balanced
  simp only [worth, Ledger.total_eq, balanced.lying, balanced.carried, balanced'.lying,
    balanced'.carried]
  cases trade with
  | keep lying carried living => simp only [lying, carried, living]
  | take c owner lying carried living =>
    have owners := sum_owner owner 1
    have colonies := sum_colony c 1
    simp only [← lying, carried, living]
    omega
  | put c owner lying carried living =>
    have owners := sum_owner owner 1
    have colonies := sum_colony c 1
    simp only [lying, ← carried, living]
    omega
  | die c laden owner lying carried living =>
    have owners := sum_owner owner (corpseFood + laden.toNat)
    have loads := sum_colony c laden.toNat
    have colonies := sum_colony c 1
    simp only [lying, ← carried, ← living, corpseFood] at owners ⊢
    omega

/-! ### The start -/

/-- Sites bring their food to the slots of bare rock on which they are put. -/
theorem sum_foldl_settle (o : Option Colony) {sites : List (Terrain × Nat)} {cells : Array Cell}
    {ants : Array Ant} (nodup : (sites.map Prod.snd).Nodup)
    (vacant : ∀ slot ∈ sites.map Prod.snd, cells[slot]? = some .rock) :
    ((sites.foldl settle (cells, ants)).1.toList.map (Cell.share o)).sum =
      (cells.toList.map (Cell.share o)).sum +
        (sites.map fun site => (Cell.ofTerrain site.1).share o).sum := by
  induction sites generalizing cells ants with
  | nil => rfl
  | cons site sites ih =>
    obtain ⟨t, slot⟩ := site
    rw [List.map_cons, List.nodup_cons] at nodup
    have settledHere := sum_map_modify (Cell.share o) (fun _ => settled t ants.size)
      cells.toList slot
    have vacantHere : cells.toList[slot]? = some .rock := by
      simpa using vacant slot List.mem_cons_self
    rw [vacantHere, List.modify_eq_set, Option.map_some, Option.getD_some, Cell.share_rock,
      Option.map_some, Option.getD_some] at settledHere
    have vacantElsewhere : ∀ s ∈ sites.map Prod.snd,
        (cells.setIfInBounds slot (settled t ants.size))[s]? = some .rock := by
      intro s mem
      have differ : slot ≠ s := fun same => nodup.1 (same ▸ mem)
      rw [Array.getElem?_setIfInBounds_ne differ]
      exact vacant s (List.mem_cons_of_mem _ mem)
    rw [List.foldl_cons, settle_eq, ih nodup.2 vacantElsewhere, Array.toList_setIfInBounds,
      List.map_cons, List.sum_cons, ← Nat.add_assoc]
    exact congrArg (· + _) settledHere

namespace Begun

variable {w : World} {b : Battle} (begun : Begun w b)

include begun

theorem foodOn_eq (o : Option Colony) :
    b.foodOn o = (w.sites.map fun s => (Cell.ofTerrain s.terrain).share o).sum := by
  have nodup : ((laid w b.layout).map Prod.snd).Nodup := begun.map_snd_laid ▸ begun.covers.nodup
  have vacant : ∀ slot ∈ (laid w b.layout).map Prod.snd,
      (Array.replicate b.layout.size Cell.rock)[slot]? = some .rock := by
    intro slot mem
    rw [begun.map_snd_laid] at mem
    rw [Array.getElem?_replicate, if_pos (begun.covers.lt_size mem)]
  have bare : ((Array.replicate b.layout.size Cell.rock).toList.map (Cell.share o)).sum = 0 := by
    simp [Cell.share_rock]
  rw [foodOn, begun.cells, sum_foldl_settle o nodup vacant, bare, Nat.zero_add, laid, List.map_map]
  rfl

/-- All food lies outside the anthills. -/
theorem foodOn_none : b.foodOn none = w.totalFood := by
  rw [begun.foodOn_eq, World.totalFood, List.sum_eq_foldr, List.foldr_map]
  congr 1
  funext s n
  cases s.terrain <;> rfl

theorem foodOn_hill (c : Colony) : b.foodOn (some c) = 0 := by
  rw [begun.foodOn_eq, List.sum_eq_zero_iff_forall_eq_nat]
  intro food mem
  obtain ⟨s, -, rfl⟩ := List.mem_map.1 mem
  cases s.terrain <;> simp [Cell.share, Cell.ofTerrain, Terrain.owner?, Terrain.foodAmount]

theorem carriers_eq (c : Colony) : b.carriers c = 0 := by
  rw [carriers, Array.countP_eq_zero]
  intro ant mem
  obtain ⟨id, present⟩ := Array.getElem?_of_mem mem
  obtain ⟨-, -, -, -, -, fresh, -⟩ := begun.exists_site_of_ant present
  rw [fresh]
  simp [Ant.fresh]

theorem living_eq (c : Colony) : b.living c = w.hillCount c := by
  rw [living, begun.ants, List.countP_toArray, hatched, laid, List.countP_filterMap,
    List.countP_map, World.hillCount]
  congr 1
  funext s
  obtain ⟨place, t⟩ := s
  cases t <;> simp [Terrain.owner?, Ant.fresh, beq_eq_decide]

theorem balanced : b.Balanced where
  lying o := by
    rw [begun.ledger]
    cases o with
    | none => exact begun.foodOn_none.symm
    | some c => rw [begun.foodOn_hill]; cases c <;> rfl
  carried c := by
    rw [begun.ledger, begun.carriers_eq]
    cases c <;> rfl

theorem worth_eq : b.worth = w.totalFood + 3 * (w.hillCount .red + w.hillCount .black) := by
  rw [worth, begun.living_eq, begun.living_eq, begun.ledger]
  simp [Ledger.total, Ledger.ofUnclaimed, PerColony.both]

end Begun

/-! ### All moments -/

/-- Nobody is born. -/
theorem Trade.living_le {b b' : Battle} (trade : Trade b b') (c : Colony) :
    b'.living c ≤ b.living c := by
  cases trade with
  | keep _ _ living => exact Nat.le_of_eq (living c)
  | take _ _ _ _ living => exact Nat.le_of_eq (living c)
  | put _ _ _ _ living => exact Nat.le_of_eq (living c)
  | die _ _ _ _ _ living => exact Nat.le_of_add_right_le (Nat.le_of_eq (living c))

/-- A chain of changes keeps the account that of the board and the worth as it is. -/
theorem stores_of_deeds {b b' : Battle} (sound : b.Sound) (balanced : b.Balanced)
    (deeds : ReflTransGen Deed b b') :
    b'.Balanced ∧ b'.worth = b.worth ∧ ∀ c, b'.living c ≤ b.living c := by
  induction deeds with
  | refl => exact ⟨balanced, rfl, fun _ => Nat.le_refl _⟩
  | tail earlier deed ih =>
    obtain ⟨balanced, worth, fewer⟩ := ih
    have trade := deed.trade (sound.deeds earlier)
    refine ⟨trade.balanced balanced, (trade.worth_eq balanced).trans worth, ?_⟩
    intro c
    exact (trade.living_le c).trans (fewer c)

theorem Begun.stores {w : World} {b : Battle} (begun : Begun w b) (n k : Nat) :
    (b.moment n k).Balanced ∧ (b.moment n k).worth = b.worth ∧
      ∀ c, (b.moment n k).living c ≤ b.living c :=
  stores_of_deeds begun.sound begun.balanced (deeds_moment b n k)

theorem food_le_foodOn (b : Battle) (slot : Nat) :
    (b.cellAt slot).food ≤ b.foodOn (b.cellAt slot).owner := by
  by_cases onBoard : slot < b.cells.size
  · have cell : b.cellAt slot = b.cells[slot] := by simp [cellAt, onBoard]
    have mem : Cell.share (b.cellAt slot).owner (b.cellAt slot) ∈
        b.cells.toList.map (Cell.share (b.cellAt slot).owner) := by
      refine List.mem_map_of_mem ?_
      rw [cell]
      exact Array.mem_toList_iff.2 (Array.getElem_mem onBoard)
    obtain ⟨front, back, split⟩ := List.append_of_mem mem
    rw [foodOn, split, List.sum_append, List.sum_cons, Cell.share, if_pos rfl]
    exact (Nat.le_add_right _ _).trans (Nat.le_add_left _ _)
  · have bare : b.cellAt slot = .rock := by simp [cellAt, onBoard]
    rw [bare]
    exact Nat.zero_le _

theorem Balanced.foodOn_le {b : Battle} (balanced : b.Balanced) (o : Option Colony) :
    b.foodOn o ≤ b.ledger.total := by
  rw [← balanced.lying, Ledger.total_eq]
  rcases o with _ | _ | _ <;> omega

theorem Balanced.food_le {b : Battle} (balanced : b.Balanced) (slot : Nat) :
    (b.cellAt slot).food ≤ b.ledger.total :=
  (food_le_foodOn b slot).trans (balanced.foodOn_le _)

/-- If the map's food and the remains of all ants can be told in a word of 32 bits, so can all food at
any moment. -/
theorem Begun.total_lt {w : World} {b : Battle} (begun : Begun w b)
    (scarce : w.totalFood + 3 * (w.hillCount .red + w.hillCount .black) < 2 ^ 32) (n k : Nat) :
    (b.moment n k).ledger.total < 2 ^ 32 := by
  calc (b.moment n k).ledger.total
      ≤ (b.moment n k).worth := Nat.le_add_right _ _
    _ = b.worth := (begun.stores n k).2.1
    _ < 2 ^ 32 := by rwa [begun.worth_eq]

/-- What a living ant carries is in the account. -/
theorem Balanced.laden_le {b : Battle} (balanced : b.Balanced) {id : Nat} {ant : Ant}
    (present : b.ant? id = some ant) (alive : ant.alive) :
    ant.laden.toNat ≤ b.ledger.carried.get ant.colony := by
  rw [balanced.carried]
  cases laden : ant.laden with
  | false => exact Nat.zero_le _
  | true =>
    apply Array.countP_pos_iff.2
    exact ⟨ant, Array.mem_of_getElem? present, by simp [alive, laden]⟩

/-- After every round and between the turns of any two ants the account is that of the board: what it
has on an anthill lies on the cells of the anthill, what it has unclaimed lies on the other cells, and
each living laden ant carries one piece. If the map's food and the remains of all ants can be told in
a word of 32 bits, so can the food of each cell at all moments. -/
theorem ledger_mirrors_board {w : World} {brains : PerColony Brain} {seed : Nat} {b : Battle}
    (started : start w brains seed = .ok b)
    (scarce : w.totalFood + 3 * (w.hillCount .red + w.hillCount .black) < 2 ^ 32)
    (n k : Nat) :
    (∀ c, (b.moment n k).ledger.hill.get c = (b.moment n k).foodOn (some c)) ∧
      (b.moment n k).ledger.unclaimed = (b.moment n k).foodOn none ∧
      (∀ c, (b.moment n k).ledger.carried.get c = (b.moment n k).carriers c) ∧
      ∀ slot, ((b.moment n k).cellAt slot).food < 2 ^ 32 := by
  have begun := begun_of_start started
  have balanced := (begun.stores n k).1
  refine ⟨fun c => balanced.lying (some c), balanced.lying none, balanced.carried, fun slot => ?_⟩
  exact Nat.lt_of_le_of_lt (balanced.food_le slot) (begun.total_lt scarce n k)

theorem ledger_after_siege : ∃ b, start siege ⟨marcher, idler⟩ 1 = .ok b ∧
    (b.moment 1 0).living .black = 0 ∧
    (b.moment 1 0).ledger.hill.get .black = (b.moment 1 0).foodOn (some .black) := by
  obtain ⟨b, started, -, -, fallen⟩ := siege_falls
  exact ⟨b, started, fallen, (ledger_mirrors_board started (by decide) 1 0).1 .black⟩

/-- After every round and between the turns of any two ants there is the food of the map and the
remains of the dead, and no other. What a dead ant carried is neither lost nor doubled. -/
theorem food_conserved {w : World} {brains : PerColony Brain} {seed : Nat} {b : Battle}
    (started : start w brains seed = .ok b) (n k : Nat) :
    (∀ c, (b.moment n k).living c ≤ b.mustered.get c) ∧
      (b.moment n k).ledger.total =
        w.totalFood + 3 * ((b.mustered.get .red - (b.moment n k).living .red) +
          (b.mustered.get .black - (b.moment n k).living .black)) := by
  have begun := begun_of_start started
  obtain ⟨-, worth, fewer⟩ := begun.stores n k
  have mustered (c : Colony) : b.mustered.get c = b.living c := by
    rw [begun.mustered, begun.living_eq]
    cases c <;> rfl
  have reds := fewer .red
  have blacks := fewer .black
  simp only [mustered]
  refine ⟨fewer, ?_⟩
  rw [begun.worth_eq, Battle.worth, ← begun.living_eq, ← begun.living_eq] at worth
  omega

theorem food_after_siege : ∃ b, start siege ⟨marcher, idler⟩ 1 = .ok b ∧
    (b.moment 1 0).ledger.total = 5 := by
  obtain ⟨b, started, mustered, remaining, fallen⟩ := siege_falls
  have conserved := (food_conserved started 1 0).2
  rw [mustered, remaining, fallen] at conserved
  exact ⟨b, started, conserved⟩

end Battle

end Formicary
