/-
Module: Formicary.Proofs.Layout
Purpose: The numbering of a map's cells: no number twice, none beyond the frame, and a step back for
  every step.
Main exports: Frame.HasInside, Layout.Covers, Layout.covers_of_build, Frame.neighbor_neighbor,
  World.Bounded, Layout.Covers.size_lt_word
-/
import Mathlib
import Formicary.Layout

namespace Formicary

/-! ### Steps back -/

theorem Direction.du_opposite (d : Direction) : (d + 3).du = -d.du := by
  revert d; decide

theorem Direction.dv_opposite (d : Direction) : (d + 3).dv = -d.dv := by
  revert d; decide

namespace Frame

theorem offset_opposite (f : Frame) (d : Direction) : f.offset (d + 3) = -f.offset d := by
  rw [offset, offset, Direction.du_opposite, Direction.dv_opposite, Int.neg_mul, Int.neg_add]

/-- A step in the opposite direction leads back. -/
theorem neighbor_neighbor (f : Frame) {slot : Nat} (fits : slot < 2 ^ 64) (d : Direction) :
    f.neighbor (f.neighbor slot d) (d + 3) = slot := by
  simp only [neighbor, offset_opposite, UInt64.size]
  generalize f.offset d = o
  omega

/-! ### The frame of a map -/

/-- A cell lies in a frame, and so do the cells around it. -/
structure HasInside (f : Frame) (h : Hex) : Prop where
  above : f.minU < h.u
  below : h.u + 1 < f.minU + f.height
  left : f.minV < h.v
  right : h.v + 1 < f.minV + f.width

theorem contains_iff {f : Frame} {h : Hex} :
    f.contains h ↔ f.minU ≤ h.u ∧ h.u < f.minU + f.height ∧
      f.minV ≤ h.v ∧ h.v < f.minV + f.width := by
  simp [contains, and_assoc]

theorem HasInside.contains {f : Frame} {h : Hex} (inside : f.HasInside h) : f.contains h := by
  have above := inside.above
  have below := inside.below
  have left := inside.left
  have right := inside.right
  rw [contains_iff]
  omega

/-- The margin holds the cells around those of the map. -/
theorem HasInside.contains_neighbor {f : Frame} {h : Hex} (inside : f.HasInside h)
    (d : Direction) : f.contains (h.neighbor d) := by
  have above := inside.above
  have below := inside.below
  have left := inside.left
  have right := inside.right
  have near : -1 ≤ d.du ∧ d.du ≤ 1 ∧ -1 ≤ d.dv ∧ d.dv ≤ 1 := by revert d; decide
  rw [contains_iff]
  simp only [Hex.neighbor]
  omega

theorem slot_lt_size {f : Frame} {h : Hex} (within : f.contains h) : f.slot h < f.size := by
  obtain ⟨above, below, left, right⟩ := contains_iff.1 within
  have row : (h.u - f.minU).toNat + 1 ≤ f.height := by omega
  have column : (h.v - f.minV).toNat < f.width := by omega
  calc f.slot h
      < (h.u - f.minU).toNat * f.width + f.width := Nat.add_lt_add_left column _
    _ = ((h.u - f.minU).toNat + 1) * f.width := by rw [Nat.add_mul, Nat.one_mul]
    _ ≤ f.height * f.width := Nat.mul_le_mul_right _ row
    _ = f.size := Nat.mul_comm _ _

/-- The frame around some cells is made of their extreme rows and columns. -/
theorem around?_eq_some {hexes : List Hex} {f : Frame} (framed : around? hexes = some f) :
    ∃ top ∈ hexes, ∃ bottom ∈ hexes, ∃ left ∈ hexes, ∃ right ∈ hexes,
      (∀ h ∈ hexes, top.u ≤ h.u ∧ h.u ≤ bottom.u ∧ left.v ≤ h.v ∧ h.v ≤ right.v) ∧
      f = { minU := top.u - 1, minV := left.v - 1, width := (right.v - left.v + 3).toNat,
            height := (bottom.u - top.u + 3).toNat } := by
  simp only [around?, Option.bind_eq_bind, Option.bind_eq_some_iff, Option.pure_def,
    Option.some.injEq] at framed
  obtain ⟨lowU, isLowU, highU, isHighU, lowV, isLowV, highV, isHighV, rfl⟩ := framed
  rw [List.min?_eq_some_iff] at isLowU isLowV
  rw [List.max?_eq_some_iff] at isHighU isHighV
  simp only [List.mem_map, forall_exists_index, and_imp, forall_apply_eq_imp_iff₂] at *
  obtain ⟨⟨top, isTop, rfl⟩, leastU⟩ := isLowU
  obtain ⟨⟨bottom, isBottom, rfl⟩, greatestU⟩ := isHighU
  obtain ⟨⟨left, isLeft, rfl⟩, leastV⟩ := isLowV
  obtain ⟨⟨right, isRight, rfl⟩, greatestV⟩ := isHighV
  exact ⟨top, isTop, bottom, isBottom, left, isLeft, right, isRight,
    fun h mem => ⟨leastU h mem, greatestU h mem, leastV h mem, greatestV h mem⟩, rfl⟩

theorem around?_eq_none_iff {hexes : List Hex} : around? hexes = none ↔ hexes = [] := by
  cases hexes with
  | nil => simp [around?]
  | cons h hexes => simp [around?, List.min?_cons, List.max?_cons]

theorem hasInside_of_around? {hexes : List Hex} {f : Frame} (framed : around? hexes = some f)
    {h : Hex} (mem : h ∈ hexes) : f.HasInside h := by
  obtain ⟨top, -, bottom, -, left, -, right, -, extreme, rfl⟩ := around?_eq_some framed
  obtain ⟨above, below, before, behind⟩ := extreme h mem
  constructor <;> dsimp only <;> omega

end Frame

/-! ### The slots of a map -/

namespace Layout

/-- No slot is taken twice exactly when all slots differ. -/
theorem repeated?_eq_none {taken : Std.TreeSet Nat} {slots : List (Place × Nat)} :
    repeated? taken slots = none ↔
      (slots.map Prod.snd).Nodup ∧ ∀ s ∈ slots.map Prod.snd, taken.contains s = false := by
  induction slots generalizing taken with
  | nil => simp [repeated?]
  | cons slot slots ih =>
    obtain ⟨p, s⟩ := slot
    simp only [repeated?, List.map_cons, List.nodup_cons, List.forall_mem_cons]
    by_cases twice : taken.contains s
    · simp [twice]
    · simp only [twice, Bool.false_eq_true, if_false, ih, Std.TreeSet.contains_insert,
        Bool.or_eq_false_iff, true_and]
      constructor
      · rintro ⟨nodup, fresh⟩
        exact ⟨⟨fun mem => by simpa using (fresh s mem).1, nodup⟩, fun t mem => (fresh t mem).2⟩
      · rintro ⟨⟨notMem, nodup⟩, fresh⟩
        refine ⟨nodup, fun t mem => ⟨?_, fresh t mem⟩⟩
        have differ : s ≠ t := fun same => notMem (same ▸ mem)
        simpa using differ

/-- What a layout of some places promises. -/
structure Covers (l : Layout) (places : List Place) : Prop where
  slots : l.slots = places.map fun p => (p, l.slot (Hex.ofPlace p))
  nodup : (l.slots.map Prod.snd).Nodup
  framed : Frame.around? (places.map Hex.ofPlace) = some l.toFrame

theorem covers_of_build {places : List Place} {l : Layout} (built : build places = .ok l) :
    l.Covers places := by
  unfold build at built
  split at built
  · cases built
  · rename_i frame framed
    dsimp only at built
    split at built
    · cases built
    · rename_i distinct
      cases built
      exact ⟨rfl, (repeated?_eq_none.1 distinct).1, framed⟩

namespace Covers

variable {l : Layout} {places : List Place} (covers : l.Covers places)

include covers

theorem hasInside {p : Place} (mem : p ∈ places) : l.toFrame.HasInside (Hex.ofPlace p) :=
  Frame.hasInside_of_around? covers.framed (List.mem_map_of_mem mem)

/-- All slots of the map lie in the frame. -/
theorem lt_size {slot : Nat} (mem : slot ∈ l.slots.map Prod.snd) : slot < l.size := by
  rw [covers.slots, List.map_map] at mem
  obtain ⟨p, isPlace, rfl⟩ := List.mem_map.1 mem
  exact Frame.slot_lt_size (covers.hasInside isPlace).contains

end Covers

end Layout

/-! ### Word limits -/

/-- A place whose coordinates are far from the limits of words of 32 bits. -/
def Place.Bounded (p : Place) : Prop := p.x.natAbs ≤ 2 ^ 28 ∧ p.y.natAbs ≤ 2 ^ 28

instance (p : Place) : Decidable p.Bounded := inferInstanceAs (Decidable (_ ∧ _))

/-- A map whose coordinates are far from the limits of words of 32 bits. -/
def World.Bounded (w : World) : Prop := ∀ p ∈ w.places, p.Bounded

instance (w : World) : Decidable w.Bounded := inferInstanceAs (Decidable (∀ p ∈ w.places, p.Bounded))

theorem Place.Bounded.ofPlace {p : Place} (bounded : p.Bounded) :
    (Hex.ofPlace p).u.natAbs ≤ 2 ^ 28 ∧ (Hex.ofPlace p).v.natAbs ≤ 2 ^ 28 + 2 ^ 27 := by
  obtain ⟨x, y⟩ := bounded
  simp only [Hex.ofPlace]
  omega

/-- The frame of a map with bounded coordinates is far smaller than words of 32 bits allow. -/
theorem Frame.extent_le_of_around? {places : List Place} {f : Frame}
    (framed : around? (places.map Hex.ofPlace) = some f) (bounded : ∀ p ∈ places, p.Bounded) :
    f.width ≤ 2 ^ 30 ∧ f.height ≤ 2 ^ 30 := by
  obtain ⟨top, isTop, bottom, isBottom, left, isLeft, right, isRight, -, rfl⟩ :=
    around?_eq_some framed
  have near {h : Hex} (mem : h ∈ places.map Hex.ofPlace) :
      h.u.natAbs ≤ 2 ^ 28 ∧ h.v.natAbs ≤ 2 ^ 28 + 2 ^ 27 := by
    obtain ⟨p, isPlace, rfl⟩ := List.mem_map.1 mem
    exact (bounded p isPlace).ofPlace
  constructor
  · have := near isLeft; have := near isRight
    dsimp only; omega
  · have := near isTop; have := near isBottom
    dsimp only; omega

/-- The slots of such a frame are words of 64 bits. -/
theorem Frame.size_lt_of_around? {places : List Place} {f : Frame}
    (framed : around? (places.map Hex.ofPlace) = some f) (bounded : ∀ p ∈ places, p.Bounded) :
    f.size < 2 ^ 64 := by
  obtain ⟨width, height⟩ := extent_le_of_around? framed bounded
  calc f.size
      ≤ 2 ^ 30 * 2 ^ 30 := Nat.mul_le_mul width height
    _ < 2 ^ 64 := by decide

theorem Layout.Covers.extent_le {l : Layout} {places : List Place} (covers : l.Covers places)
    (bounded : ∀ p ∈ places, p.Bounded) : l.width ≤ 2 ^ 30 ∧ l.height ≤ 2 ^ 30 :=
  Frame.extent_le_of_around? covers.framed bounded

theorem Layout.Covers.size_lt_word {l : Layout} {places : List Place} (covers : l.Covers places)
    (bounded : ∀ p ∈ places, p.Bounded) : l.size < 2 ^ 64 :=
  Frame.size_lt_of_around? covers.framed bounded

end Formicary
