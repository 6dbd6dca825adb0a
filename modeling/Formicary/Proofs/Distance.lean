/-
Module: Formicary.Proofs.Distance
Purpose: The distance of two cells of the plane and of the places of two slots: the cells around a
  cell are those at distance one, and no detour is shorter.
Main exports: Hex.distance_triangle, Hex.distance_eq_one_iff, Hex.Close.sum_lt, World.Close,
  Frame.distance, Layout.Faithful.distance_eq_one_iff
-/
import Formicary.Proofs.Slots

namespace Formicary

/-! ### On the plane -/

namespace Hex

@[simp] theorem distance_self (h : Hex) : h.distance h = 0 := by
  simp [distance]

/-- One of the three coordinates changes by as much as the other two together, so the distance is the
largest change of a coordinate. -/
theorem distance_le_iff {a b : Hex} {n : Nat} :
    a.distance b ≤ n ↔
      (a.u - b.u).natAbs ≤ n ∧ (a.v - b.v).natAbs ≤ n ∧ (a.w - b.w).natAbs ≤ n := by
  simp only [distance, w]
  omega

theorem distance_triangle (a b c : Hex) : a.distance c ≤ a.distance b + b.distance c := by
  have along {x y z : Int} {m n : Nat} (first : (x - y).natAbs ≤ m)
      (second : (y - z).natAbs ≤ n) : (x - z).natAbs ≤ m + n := by
    omega
  obtain ⟨u, v, w⟩ := distance_le_iff.1 (Nat.le_refl (a.distance b))
  obtain ⟨u', v', w'⟩ := distance_le_iff.1 (Nat.le_refl (b.distance c))
  exact distance_le_iff.2 ⟨along u u', along v v', along w w'⟩

/-- The cells at distance one are those one step away. -/
theorem distance_eq_one_iff {a b : Hex} : a.distance b = 1 ↔ ∃ d, a.neighbor d = b := by
  constructor
  · intro near
    obtain ⟨row, column, diagonal⟩ := distance_le_iff.1 near.le
    have rows : b.u - a.u = -1 ∨ b.u - a.u = 0 ∨ b.u - a.u = 1 := by omega
    have columns : b.v - a.v = -1 ∨ b.v - a.v = 0 ∨ b.v - a.v = 1 := by omega
    simp only [w] at diagonal
    have six : (b.u - a.u, b.v - a.v) ∈ Direction.all.map fun d => (d.du, d.dv) := by
      -- of the nine pairs two change the third coordinate by two, and one is no step
      rcases rows with row | row | row <;> rcases columns with column | column | column
      case inl.inl | inr.inr.inr.inr => omega
      case inr.inl.inr.inl =>
        rw [distance, w, w] at near
        omega
      all_goals
        rw [row, column]
        decide
    obtain ⟨d, -, step⟩ := List.mem_map.1 six
    obtain ⟨row, column⟩ := Prod.mk.inj step
    refine ⟨d, ?_⟩
    rw [neighbor, row, column, add_sub_cancel, add_sub_cancel]
  · rintro ⟨d, rfl⟩
    have unit : (d.du).natAbs + (d.dv).natAbs + (d.du + d.dv).natAbs = 2 := by
      revert d
      decide
    simp only [distance, w, neighbor]
    omega

theorem distance_neighbor (h : Hex) (d : Direction) : h.distance (h.neighbor d) = 1 :=
  distance_eq_one_iff.2 ⟨d, rfl⟩

/-- A cell whose coordinates are far from the limits of words of 32 bits. -/
structure Close (h : Hex) : Prop where
  row : h.u.natAbs < 2 ^ 28
  column : h.v.natAbs < 2 ^ 28

/-- The sums that a distance is computed from fit in signed words of 32 bits. -/
theorem Close.sum_lt {a b : Hex} (here : a.Close) (there : b.Close) :
    (a.u - b.u).natAbs + (a.v - b.v).natAbs + (a.w - b.w).natAbs < 2 ^ 31 := by
  have := here.row
  have := here.column
  have := there.row
  have := there.column
  simp only [w]
  omega

end Hex

/-- A place whose coordinates are so far from the limits of words of 32 bits that distances between
such places are. -/
def Place.Close (p : Place) : Prop := p.x.natAbs < 2 ^ 27 ∧ p.y.natAbs < 2 ^ 27

instance (p : Place) : Decidable p.Close := inferInstanceAs (Decidable (_ ∧ _))

theorem Place.Close.hex {p : Place} (close : p.Close) : (Hex.ofPlace p).Close := by
  obtain ⟨x, y⟩ := close
  constructor <;> simp only [Hex.ofPlace] <;> omega

/-- A map of such places. -/
def World.Close (w : World) : Prop := ∀ p ∈ w.places, p.Close

instance (w : World) : Decidable w.Close := inferInstanceAs (Decidable (∀ p ∈ w.places, p.Close))

theorem World.Close.bounded {w : World} (close : w.Close) : w.Bounded := by
  intro p isPlace
  obtain ⟨x, y⟩ := close p isPlace
  constructor <;> omega

/-! ### Between slots -/

/-- Number of steps from the place of one slot to that of another. -/
def Frame.distance (f : Frame) (s t : Nat) : Nat :=
  (Hex.ofPlace (f.placeAt s)).distance (Hex.ofPlace (f.placeAt t))

theorem Frame.distance_eq (f : Frame) (s t : Nat) :
    f.distance s t = (f.hexAt s).distance (f.hexAt t) := by
  simp only [Frame.distance, Frame.placeAt, Hex.ofPlace_toPlace]

/-- The slots of the map at distance one are those one step away. -/
theorem Layout.Faithful.distance_eq_one_iff {l : Layout} (faithful : l.Faithful) {s t : Nat}
    (here : s ∈ l.slots.map Prod.snd) (there : t ∈ l.slots.map Prod.snd) :
    l.distance s t = 1 ↔ ∃ d, l.neighbor s d = t := by
  rw [Frame.distance_eq, Hex.distance_eq_one_iff]
  refine exists_congr fun d => ⟨fun next => ?_, fun next => ?_⟩
  · rw [faithful.neighbor s here, next, faithful.slot_hexAt t there]
  · rw [← faithful.hexAt_neighbor here, next]

theorem Layout.Faithful.distance_neighbor {l : Layout} (faithful : l.Faithful) {s : Nat}
    (here : s ∈ l.slots.map Prod.snd) (d : Direction) : l.distance s (l.neighbor s d) = 1 := by
  rw [Frame.distance_eq, faithful.hexAt_neighbor here, Hex.distance_neighbor]

@[simp] theorem Frame.distance_self (f : Frame) (s : Nat) : f.distance s s = 0 :=
  Hex.distance_self _

theorem Frame.distance_triangle (f : Frame) (s t u : Nat) :
    f.distance s u ≤ f.distance s t + f.distance t u :=
  Hex.distance_triangle _ _ _

theorem Layout.Covers.close_hexAt {l : Layout} {w : World} (covers : l.Covers w.places)
    (close : w.Close) {s : Nat} (onMap : s ∈ l.slots.map Prod.snd) : (l.hexAt s).Close := by
  obtain ⟨p, isPlace, rfl⟩ := covers.mem_slots_iff.1 onMap
  rw [(covers.faithful close.bounded).hexAt_slot _ (covers.hasInside isPlace).contains]
  exact (close p isPlace).hex

end Formicary
