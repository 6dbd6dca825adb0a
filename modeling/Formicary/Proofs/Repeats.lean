/-
Module: Formicary.Proofs.Repeats
Purpose: Which maps have no layout, and which place is then to blame: a map without places, and a
  map with a place that repeats an earlier one.
Main exports: Layout.repeated?_eq_some_iff, Layout.build_eq_empty_iff,
  Layout.build_eq_duplicate_iff, Layout.first_repetition_reported
-/
import Formicary.Proofs.Slots

namespace Formicary

namespace Layout

/-! ### Among slots -/

/-- The place that is found is the first whose slot is taken, either beforehand or by a place in
front of it. -/
theorem repeated?_eq_some_iff {taken : Std.TreeSet Nat} {slots : List (Place × Nat)} {p : Place} :
    repeated? taken slots = some p ↔
      ∃ front s back, slots = front ++ (p, s) :: back ∧ repeated? taken front = none ∧
        (taken.contains s ∨ s ∈ front.map Prod.snd) := by
  induction slots generalizing taken with
  | nil => simp [repeated?]
  | cons slot slots ih =>
    obtain ⟨q, t⟩ := slot
    by_cases here : taken.contains t
    · have now (rest : List (Place × Nat)) : repeated? taken ((q, t) :: rest) = some q := by
        rw [repeated?, if_pos here]
      rw [now]
      constructor
      · intro found
        obtain rfl := Option.some.inj found
        exact ⟨[], t, slots, rfl, rfl, .inl here⟩
      · rintro ⟨front, s, back, split, fresh, -⟩
        cases front with
        | nil =>
          obtain ⟨same, -⟩ := List.cons.inj split
          rw [(Prod.mk.inj same).1]
        | cons first front =>
          obtain ⟨rfl, -⟩ := List.cons.inj split
          rw [now] at fresh
          cases fresh
    · have later (rest : List (Place × Nat)) :
          repeated? taken ((q, t) :: rest) = repeated? (taken.insert t) rest := by
        rw [repeated?, if_neg here]
      have known {s : Nat} {front : List (Place × Nat)} :
          ((taken.insert t).contains s ∨ s ∈ front.map Prod.snd) ↔
            (taken.contains s ∨ s ∈ ((q, t) :: front).map Prod.snd) := by
        simp only [Std.TreeSet.contains_insert, List.map_cons, List.mem_cons, Bool.or_eq_true,
          beq_iff_eq, compare_eq_iff_eq, eq_comm (a := s)]
        tauto
      rw [later, ih]
      constructor
      · rintro ⟨front, s, back, rfl, fresh, twice⟩
        exact ⟨(q, t) :: front, s, back, rfl, (later front).trans fresh, known.1 twice⟩
      · rintro ⟨front, s, back, split, fresh, twice⟩
        cases front with
        | nil =>
          obtain ⟨same, -⟩ := List.cons.inj split
          obtain ⟨-, rfl⟩ := Prod.mk.inj same
          simp [here] at twice
        | cons first front =>
          obtain ⟨rfl, rfl⟩ := List.cons.inj split
          exact ⟨front, s, back, rfl, (later front).symm.trans fresh, known.2 twice⟩

/-! ### Among places -/

section Build

variable {places : List Place} {f : Frame}

theorem build_of_framed (framed : Frame.around? (places.map Hex.ofPlace) = some f) :
    build places =
      match repeated? ∅ (places.map fun p => (p, f.slot (Hex.ofPlace p))) with
      | some p => .error (.duplicate p)
      | none => .ok { f with slots := places.map fun p => (p, f.slot (Hex.ofPlace p)) } := by
  cases repetition : repeated? ∅ (places.map fun p => (p, f.slot (Hex.ofPlace p))) with
  | none => simp only [build, framed, repetition]
  | some p => simp only [build, framed, repetition]

theorem build_eq_empty_iff : build places = .error .empty ↔ places = [] := by
  cases framed : Frame.around? (places.map Hex.ofPlace) with
  | none =>
    rw [build, framed, ← List.map_eq_nil_iff, ← Frame.around?_eq_none_iff]
    exact iff_of_true rfl framed
  | some f =>
    rw [build_of_framed framed]
    constructor
    · intro failed
      split at failed <;> cases failed
    · rintro rfl
      cases framed

/-- The place that a map is refused for is the first that repeats one in front of it. Places are
compared by their slots, and no two of them share a slot. -/
theorem build_eq_duplicate_iff {p : Place} :
    build places = .error (.duplicate p) ↔
      ∃ front back, places = front ++ p :: back ∧ front.Nodup ∧ p ∈ front := by
  cases framed : Frame.around? (places.map Hex.ofPlace) with
  | none =>
    have empty : places = [] := List.map_eq_nil_iff.1 (Frame.around?_eq_none_iff.1 framed)
    rw [build_eq_empty_iff.2 empty, empty]
    simp
  | some f =>
    have refused : build places = .error (.duplicate p) ↔
        repeated? ∅ (places.map fun p => (p, f.slot (Hex.ofPlace p))) = some p := by
      rw [build_of_framed framed]
      split <;> simp [*]
    rw [refused, repeated?_eq_some_iff]
    constructor
    · rintro ⟨_, s, _, split, fresh, twice⟩
      obtain ⟨front, _, rfl, rfl, rest⟩ := List.map_eq_append_iff.1 split
      obtain ⟨p, back, rfl, ⟨⟩, rfl⟩ := List.map_eq_cons_iff.1 rest
      have nodup := (repeated?_slots_eq_none_iff framed (List.subset_append_left _ _)).1 fresh
      simp only [Std.TreeSet.contains_emptyc, Bool.false_eq_true, false_or, List.map_map,
        List.mem_map] at twice
      obtain ⟨p, before, sameSlot⟩ := twice
      rw [← Frame.eq_of_slot_ofPlace_eq framed (List.mem_append_left _ before) (by simp) sameSlot]
      exact ⟨front, back, rfl, nodup, before⟩
    · rintro ⟨front, back, rfl, nodup, before⟩
      have fresh := (repeated?_slots_eq_none_iff framed (List.subset_append_left _ _)).2 nodup
      refine ⟨_, f.slot (Hex.ofPlace p), _, by rw [List.map_append, List.map_cons], fresh, .inr ?_⟩
      rw [List.map_map]
      exact List.mem_map_of_mem before

theorem exists_build_eq_duplicate_iff :
    (∃ p, build places = .error (.duplicate p)) ↔ ¬places.Nodup := by
  constructor
  · rintro ⟨p, refused⟩ nodup
    obtain ⟨front, back, rfl, -, before⟩ := build_eq_duplicate_iff.1 refused
    exact (List.nodup_append.1 nodup).2.2 p before p List.mem_cons_self rfl
  · intro twice
    cases result : build places with
    | ok l => exact absurd (exists_build_iff.1 ⟨l, result⟩).2 twice
    | error fault =>
      cases fault with
      | empty =>
        rw [build_eq_empty_iff.1 result] at twice
        exact absurd List.nodup_nil twice
      | duplicate p => exact ⟨p, rfl⟩

end Build

/-- A map is refused for having no cells, or for having a place twice, and for nothing else. The
place it is refused for is then the first in its order that stands in it before, and so never one
that only seems to be there twice. Any other map has a layout, with an entry for each cell in its
order. The rows, columns and slots that this takes fit words of 32 and 64 bits. -/
theorem first_repetition_reported {w : World} (bounded : w.Bounded) :
    (build w.places = .error .empty ↔ w.sites = []) ∧
      ((∃ p, build w.places = .error (.duplicate p)) ↔ ¬w.places.Nodup) ∧
      (∀ p, build w.places = .error (.duplicate p) ↔
        ∃ front back, w.places = front ++ p :: back ∧ front.Nodup ∧ p ∈ front) ∧
      ((∃ l, build w.places = .ok l) ↔ w.sites ≠ [] ∧ w.places.Nodup) ∧
      (∀ l, build w.places = .ok l →
        l.slots = w.places.map fun p => (p, l.slot (Hex.ofPlace p))) ∧
      ∀ f, Frame.around? (w.places.map Hex.ofPlace) = some f →
        f.width < 2 ^ 31 ∧ f.height < 2 ^ 31 ∧ f.size < 2 ^ 64 := by
  have empty : w.places = [] ↔ w.sites = [] := List.map_eq_nil_iff
  refine ⟨build_eq_empty_iff.trans empty, exists_build_eq_duplicate_iff,
    fun p => build_eq_duplicate_iff, exists_build_iff.trans (and_congr_left' (not_congr empty)),
    fun l built => (covers_of_build built).slots, fun f framed => ?_⟩
  obtain ⟨width, height⟩ := Frame.extent_le_of_around? framed bounded
  exact ⟨width.trans_lt (by decide), height.trans_lt (by decide),
    Frame.size_lt_of_around? framed bounded⟩

/-- Five cells in rows above and below the origin. The fourth repeats the second and the fifth the
first; the one to blame is the fourth. -/
theorem fourth_cell_repeats :
    ∃ w : World, w.places = [⟨1, 0⟩, ⟨0, -1⟩, ⟨0, 1⟩, ⟨0, -1⟩, ⟨1, 0⟩] ∧ w.Bounded ∧
      build w.places = .error (.duplicate ⟨0, -1⟩) := by
  have bounded : World.Bounded
      { width := 2, height := 3,
        sites := [⟨⟨1, 0⟩, .rock⟩, ⟨⟨0, -1⟩, .clear⟩, ⟨⟨0, 1⟩, .hill .red⟩, ⟨⟨0, -1⟩, .food 3⟩,
          ⟨⟨1, 0⟩, .rock⟩] } := by
    decide
  obtain ⟨-, -, blame, -⟩ := first_repetition_reported bounded
  exact ⟨_, rfl, bounded, (blame ⟨0, -1⟩).2
    ⟨[⟨1, 0⟩, ⟨0, -1⟩, ⟨0, 1⟩], [⟨1, 0⟩], rfl, by decide, by decide⟩⟩

end Layout

end Formicary
