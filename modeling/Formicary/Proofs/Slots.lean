/-
Module: Formicary.Proofs.Slots
Purpose: Slots stand for cells of the plane: each slot of the frame for one cell, and a step on the
  slots for a step on the plane.
Main exports: Frame.hexAt_slot, Frame.slot?_eq_some_iff, Frame.neighbor_slot, Layout.Faithful,
  Layout.Covers.faithful, Layout.exists_build_iff, Layout.slots_number_hexes
-/
import Formicary.Proofs.Layout

namespace Formicary

namespace Frame

variable {f : Frame} {h : Hex}

/-! ### Rows and columns of a slot -/

theorem slot_div_width (within : f.contains h) : f.slot h / f.width = (h.u - f.minU).toNat := by
  obtain ⟨-, -, left, right⟩ := contains_iff.1 within
  have column : (h.v - f.minV).toNat < f.width := by omega
  rw [slot, Nat.mul_comm, Nat.mul_add_div (Nat.zero_lt_of_lt column), Nat.div_eq_of_lt column,
    Nat.add_zero]

theorem slot_mod_width (within : f.contains h) : f.slot h % f.width = (h.v - f.minV).toNat := by
  obtain ⟨-, -, left, right⟩ := contains_iff.1 within
  have column : (h.v - f.minV).toNat < f.width := by omega
  rw [slot, Nat.mul_comm, Nat.mul_add_mod, Nat.mod_eq_of_lt column]

/-- No two cells of the rectangle have one slot. -/
theorem eq_of_slot_eq {k : Hex} (within : f.contains h) (within' : f.contains k)
    (same : f.slot h = f.slot k) : h = k := by
  have row := (slot_div_width within).symm.trans (same ▸ slot_div_width within')
  have column := (slot_mod_width within).symm.trans (same ▸ slot_mod_width within')
  obtain ⟨above, -, left, -⟩ := contains_iff.1 within
  obtain ⟨above', -, left', -⟩ := contains_iff.1 within'
  cases h
  cases k
  dsimp only at *
  rw [Hex.mk.injEq]
  omega

/-- No two places that a frame was made for have one slot. -/
theorem eq_of_slot_ofPlace_eq {places : List Place}
    (framed : around? (places.map Hex.ofPlace) = some f) {p q : Place} (here : p ∈ places)
    (there : q ∈ places) (same : f.slot (Hex.ofPlace p) = f.slot (Hex.ofPlace q)) : p = q := by
  have inside {p : Place} (isPlace : p ∈ places) : f.contains (Hex.ofPlace p) :=
    (hasInside_of_around? framed (List.mem_map_of_mem isPlace)).contains
  rw [← Hex.toPlace_ofPlace p, eq_of_slot_eq (inside here) (inside there) same, Hex.toPlace_ofPlace]

/-- The cell of the slot of a cell is that cell. -/
theorem hexAt_slot (within : f.contains h) (low : f.height ≤ 2 ^ 31) :
    f.hexAt (f.slot h) = h := by
  obtain ⟨above, below, left, -⟩ := contains_iff.1 within
  -- the row is a signed word of 32 bits
  have row : Int.bmod (h.u - f.minU) UInt32.size = h.u - f.minU := by
    apply Int.bmod_eq_of_le <;> simp only [UInt32.size] <;> omega
  rw [hexAt, slot_div_width within, slot_mod_width within, Int.toNat_of_nonneg (by omega),
    Int.toNat_of_nonneg (by omega), row]
  simp only [add_sub_cancel]

/-- The slots of the frame go through its rows, each as long as the frame is wide. -/
theorem hexAt_of_lt {s : Nat} (onFrame : s < f.size) (low : f.height ≤ 2 ^ 31) :
    f.hexAt s = { u := f.minU + (s / f.width : Nat), v := f.minV + (s % f.width : Nat) } := by
  have row : s / f.width < f.height := Nat.div_lt_of_lt_mul onFrame
  have word {r : Nat} (lt : r < f.height) : Int.bmod r UInt32.size = r := by
    apply Int.bmod_eq_of_le <;> simp only [UInt32.size] <;> omega
  rw [hexAt, word row]

/-- A cell has a slot exactly if it is the cell of that slot, and the frame has no other slots. -/
theorem slot?_eq_some_iff (low : f.height ≤ 2 ^ 31) {s : Nat} :
    f.slot? h = some s ↔ s < f.size ∧ f.hexAt s = h := by
  rw [slot?, Option.ite_none_right_eq_some, Option.some.injEq]
  constructor
  · rintro ⟨within, rfl⟩
    exact ⟨slot_lt_size within, hexAt_slot within low⟩
  · rintro ⟨onFrame, rfl⟩
    have row : s / f.width < f.height := Nat.div_lt_of_lt_mul onFrame
    have column : s % f.width < f.width := by
      apply Nat.mod_lt
      rw [size] at onFrame
      exact Nat.pos_of_mul_pos_right (Nat.zero_lt_of_lt onFrame)
    rw [hexAt_of_lt onFrame low, contains_iff]
    refine ⟨⟨Int.le_add_of_nonneg_right (Int.natCast_nonneg _), ?_,
      Int.le_add_of_nonneg_right (Int.natCast_nonneg _), ?_⟩, ?_⟩
    · exact Int.add_lt_add_left (Int.ofNat_lt.2 row) _
    · exact Int.add_lt_add_left (Int.ofNat_lt.2 column) _
    · simp only [slot, add_sub_cancel_left, Int.toNat_natCast, Nat.div_add_mod']

theorem cast_slot (within : f.contains h) :
    (f.slot h : Int) = (h.u - f.minU) * f.width + (h.v - f.minV) := by
  obtain ⟨above, -, left, -⟩ := contains_iff.1 within
  rw [slot, Int.natCast_add, Int.natCast_mul, Int.toNat_of_nonneg (by omega),
    Int.toNat_of_nonneg (by omega)]

/-- A step on the slots is a step on the plane. -/
theorem neighbor_slot (inside : f.HasInside h) (words : f.size ≤ 2 ^ 64) (d : Direction) :
    f.neighbor (f.slot h) d = f.slot (h.neighbor d) := by
  have next := inside.contains_neighbor d
  have offset : (f.slot h : Int) + f.offset d = f.slot (h.neighbor d) := by
    rw [cast_slot inside.contains, cast_slot next, Frame.offset, Hex.neighbor]
    ring
  have fits : f.slot (h.neighbor d) < UInt64.size := (slot_lt_size next).trans_le words
  rw [neighbor, offset, ← Int.natCast_mod, Int.toNat_natCast, Nat.mod_eq_of_lt fits]

end Frame

theorem Hex.neighbor_injective (h : Hex) : Function.Injective h.neighbor := by
  intro d e same
  have deltas : d.du = e.du ∧ d.dv = e.dv := by
    simpa [neighbor] using same
  clear same
  revert d e
  decide

/-! ### The slots of a map -/

namespace Layout

/-- The slots of a layout stand for cells of the plane, and those of the map lie inside. -/
structure Faithful (l : Layout) : Prop where
  hexAt_slot : ∀ h, l.contains h → l.hexAt (l.slot h) = h
  inside : ∀ slot ∈ l.slots.map Prod.snd, l.toFrame.HasInside (l.hexAt slot)
  slot_hexAt : ∀ slot ∈ l.slots.map Prod.snd, l.slot (l.hexAt slot) = slot
  neighbor : ∀ slot ∈ l.slots.map Prod.snd, ∀ d,
    l.neighbor slot d = l.slot ((l.hexAt slot).neighbor d)

namespace Covers

variable {l : Layout} {places : List Place} (covers : l.Covers places)

include covers

theorem mem_slots_iff {slot : Nat} :
    slot ∈ l.slots.map Prod.snd ↔ ∃ p ∈ places, l.slot (Hex.ofPlace p) = slot := by
  rw [covers.slots, List.map_map]
  exact List.mem_map

theorem faithful (bounded : ∀ p ∈ places, p.Bounded) : l.Faithful := by
  have low : l.height ≤ 2 ^ 31 := (covers.extent_le bounded).2.trans (by decide)
  have words : l.size ≤ 2 ^ 64 := (covers.size_lt_word bounded).le
  have exists_hex {slot : Nat} (mem : slot ∈ l.slots.map Prod.snd) :
      ∃ h, l.toFrame.HasInside h ∧ l.slot h = slot ∧ l.hexAt slot = h := by
    obtain ⟨p, isPlace, rfl⟩ := covers.mem_slots_iff.1 mem
    have inside := covers.hasInside isPlace
    exact ⟨Hex.ofPlace p, inside, rfl, Frame.hexAt_slot inside.contains low⟩
  constructor
  · intro h within
    exact Frame.hexAt_slot within low
  · intro slot mem
    obtain ⟨h, inside, -, hex⟩ := exists_hex mem
    exact hex ▸ inside
  · intro slot mem
    obtain ⟨h, -, same, hex⟩ := exists_hex mem
    rw [hex, same]
  · intro slot mem d
    obtain ⟨h, inside, same, hex⟩ := exists_hex mem
    rw [hex, ← same]
    exact Frame.neighbor_slot inside words d

/-- The map's places are found under their slots. -/
theorem find?_eq {p : Place} (isPlace : p ∈ places) : l.find? p = some (l.slot (Hex.ofPlace p)) := by
  rw [find?, covers.slots]
  clear covers
  induction places with
  | nil => cases isPlace
  | cons q places ih =>
    rw [List.map_cons, List.lookup_cons]
    by_cases same : p = q
    · rw [same, beq_self_eq_true]
    · rw [beq_false_of_ne same]
      exact ih ((List.mem_cons.1 isPlace).resolve_left same)

end Covers

namespace Faithful

variable {l : Layout} (faithful : l.Faithful) {slot : Nat}

include faithful

theorem contains_hexAt (onMap : slot ∈ l.slots.map Prod.snd) : l.contains (l.hexAt slot) :=
  (faithful.inside slot onMap).contains

theorem contains_neighbor (onMap : slot ∈ l.slots.map Prod.snd) (d : Direction) :
    l.contains ((l.hexAt slot).neighbor d) :=
  (faithful.inside slot onMap).contains_neighbor d

/-- A step from a cell of the map stays in the frame. -/
theorem neighbor_lt_size (onMap : slot ∈ l.slots.map Prod.snd) (d : Direction) :
    l.neighbor slot d < l.size := by
  rw [faithful.neighbor slot onMap]
  exact Frame.slot_lt_size (faithful.contains_neighbor onMap d)

theorem hexAt_neighbor (onMap : slot ∈ l.slots.map Prod.snd) (d : Direction) :
    l.hexAt (l.neighbor slot d) = (l.hexAt slot).neighbor d := by
  rw [faithful.neighbor slot onMap]
  exact faithful.hexAt_slot _ (faithful.contains_neighbor onMap d)

/-- The six cells around a cell of the map have six slots. -/
theorem neighbor_injective (onMap : slot ∈ l.slots.map Prod.snd) :
    Function.Injective (l.neighbor slot) := by
  intro d e same
  have sameHex := congrArg l.hexAt same
  rw [faithful.hexAt_neighbor onMap, faithful.hexAt_neighbor onMap] at sameHex
  exact Hex.neighbor_injective _ sameHex

end Faithful

/-! ### Which maps have a layout -/

/-- Among places of a map no slot is taken twice exactly when no place is there twice. -/
theorem repeated?_slots_eq_none_iff {places front : List Place} {f : Frame}
    (framed : Frame.around? (places.map Hex.ofPlace) = some f) (known : front ⊆ places) :
    repeated? ∅ (front.map fun p => (p, f.slot (Hex.ofPlace p))) = none ↔ front.Nodup := by
  have distinct : (front.map fun p => f.slot (Hex.ofPlace p)).Nodup ↔ front.Nodup :=
    ⟨List.Nodup.of_map _, fun nodup => nodup.map_on fun p here q there =>
      Frame.eq_of_slot_ofPlace_eq framed (known here) (known there)⟩
  rw [repeated?_eq_none, List.map_map, ← distinct]
  simp [Function.comp_def]

/-- A map has a layout exactly if it has a place, and none of them twice. -/
theorem exists_build_iff {places : List Place} :
    (∃ l, build places = .ok l) ↔ places ≠ [] ∧ places.Nodup := by
  rw [build]
  cases framed : Frame.around? (places.map Hex.ofPlace) with
  | none =>
    have empty : places.map Hex.ofPlace = [] := Frame.around?_eq_none_iff.1 framed
    simp [List.map_eq_nil_iff.1 empty]
  | some f =>
    have some : places ≠ [] := by
      rintro rfl
      cases framed
    rw [and_iff_right some, ← repeated?_slots_eq_none_iff framed (List.Subset.refl places)]
    dsimp only
    cases repeated? ∅ (places.map fun p => (p, f.slot (Hex.ofPlace p))) <;> simp

/-! ### The numbering as a whole -/

/-- In the frame of a map, slots and cells of the plane stand for each other. The map's places keep
their order and are found again from their slots, no two of them under one slot. From each of them
the six steps lead to six slots of the frame, to those of the six cells around it, and back. -/
theorem slots_number_hexes {places : List Place} {l : Layout} (built : build places = .ok l)
    (bounded : ∀ p ∈ places, p.Bounded) :
    (∀ h, l.contains h ↔ ∃ s, l.slot? h = some s) ∧
    (∀ h s, l.slot? h = some s ↔ s < l.size ∧ l.hexAt s = h) ∧
    l.slots.map Prod.fst = places ∧
    (∀ p s, (p, s) ∈ l.slots → l.slot? (Hex.ofPlace p) = some s ∧ l.placeAt s = p) ∧
    (∀ p s q t, (p, s) ∈ l.slots → (q, t) ∈ l.slots → p ≠ q → s ≠ t) ∧
    ∀ p s, (p, s) ∈ l.slots →
      Function.Injective (l.neighbor s) ∧
      ∀ d, l.neighbor s d < l.size ∧ l.hexAt (l.neighbor s d) = (Hex.ofPlace p).neighbor d ∧
        l.neighbor (l.neighbor s d) (d + 3) = s := by
  have covers := covers_of_build built
  have faithful := covers.faithful bounded
  have low : l.height ≤ 2 ^ 31 := (covers.extent_le bounded).2.trans (by decide)
  have listed {p : Place} {s : Nat} (mem : (p, s) ∈ l.slots) :
      p ∈ places ∧ l.slot? (Hex.ofPlace p) = some s := by
    rw [covers.slots, List.mem_map] at mem
    obtain ⟨p, isPlace, ⟨⟩⟩ := mem
    exact ⟨isPlace, if_pos (covers.hasInside isPlace).contains⟩
  have hex {p : Place} {s : Nat} (mem : (p, s) ∈ l.slots) :
      s < l.size ∧ l.hexAt s = Hex.ofPlace p :=
    (Frame.slot?_eq_some_iff low).1 (listed mem).2
  refine ⟨?rectangle, fun h s => Frame.slot?_eq_some_iff low, ?order, ?found, ?apart, ?steps⟩
  case rectangle =>
    intro h
    simp [Frame.slot?]
  case order =>
    rw [covers.slots, List.map_map]
    exact List.map_id places
  case found =>
    intro p s mem
    rw [Frame.placeAt, (hex mem).2, Hex.toPlace_ofPlace]
    exact ⟨(listed mem).2, rfl⟩
  case apart =>
    rintro p s q t here there differ rfl
    apply differ
    rw [← Hex.toPlace_ofPlace p, ← Hex.toPlace_ofPlace q, ← (hex here).2, ← (hex there).2]
  case steps =>
    intro p s mem
    have onMap : s ∈ l.slots.map Prod.snd := List.mem_map_of_mem mem
    have fits : s < 2 ^ 64 := (hex mem).1.trans (covers.size_lt_word bounded)
    refine ⟨faithful.neighbor_injective onMap, fun d => ⟨faithful.neighbor_lt_size onMap d, ?_,
      Frame.neighbor_neighbor _ fits d⟩⟩
    rw [faithful.hexAt_neighbor onMap, (hex mem).2]

/-- Three places in negative and positive rows, far from a rectangle: the place in row -2 has the
fourth slot of the fifth row of its frame, and a step to the south-west leads to the third slot of
the next row. -/
theorem scattered_slots :
    ∃ l, build [⟨-3, -5⟩, ⟨0, 1⟩, ⟨1, -2⟩] = .ok l ∧ l.width = 5 ∧
      (∀ p ∈ [(⟨-3, -5⟩ : Place), ⟨0, 1⟩, ⟨1, -2⟩], p.Bounded) ∧
      l.placeAt 23 = ⟨1, -2⟩ ∧ l.neighbor 23 2 = 27 ∧ l.neighbor 27 5 = 23 := by
  have bounded : ∀ p ∈ [(⟨-3, -5⟩ : Place), ⟨0, 1⟩, ⟨1, -2⟩], p.Bounded := by decide
  obtain ⟨l, built, width, isListed, next⟩ :
      ∃ l, build [⟨-3, -5⟩, ⟨0, 1⟩, ⟨1, -2⟩] = .ok l ∧ l.width = 5 ∧
        ((⟨1, -2⟩ : Place), 23) ∈ l.slots ∧ l.neighbor 23 2 = 27 :=
    ⟨_, rfl, by decide, by decide, by decide⟩
  obtain ⟨-, -, -, found, -, steps⟩ := slots_number_hexes built bounded
  have back := ((steps _ _ isListed).2 2).2.2
  rw [next] at back
  exact ⟨l, built, width, bounded, (found _ _ isListed).2, next, back⟩

end Layout

end Formicary
