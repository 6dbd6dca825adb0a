/-
Module: Formicary.Proofs.Course
Purpose: The moments of a battle: after whole rounds and between the turns of two ants.
Main exports: Battle.moment, Battle.deeds_moment, Battle.moment_backward, Battle.moment_comm,
  Battle.moment_forward, Battle.moment_induction
-/
import Mathlib.Data.Nat.Init
import Formicary.Proofs.Deed

namespace Formicary

namespace Battle

open Relation (ReflTransGen)

/-- The battle after `n` rounds and the turns of the first `k` ants in the round after them. -/
def moment (b : Battle) (n k : Nat) : Battle := (List.range k).foldl takeTurn (playRounds n b)

theorem playRounds_succ (n : Nat) (b : Battle) :
    playRounds (n + 1) b = (playRounds n b).playRound := by
  induction n generalizing b with
  | zero => rfl
  | succ n ih => rw [playRounds, ih, ← playRounds]

theorem moment_succ (b : Battle) (n k : Nat) : b.moment n (k + 1) = (b.moment n k).takeTurn k := by
  rw [moment, List.range_succ, List.foldl_append]
  rfl

theorem deeds_foldl_takeTurn (ids : List Nat) (b : Battle) :
    ReflTransGen Deed b (ids.foldl takeTurn b) := by
  induction ids generalizing b with
  | nil => exact .refl
  | cons id ids ih => exact (deeds_takeTurn b id).trans (ih (b.takeTurn id))

theorem deeds_playRounds (n : Nat) (b : Battle) : ReflTransGen Deed b (playRounds n b) := by
  induction n with
  | zero => exact .refl
  | succ n ih =>
    rw [playRounds_succ]
    exact (ih.trans (deeds_foldl_takeTurn _ _)).tail (.quiet .pass)

/-- Every moment of a battle comes about by a chain of elementary changes. -/
theorem deeds_moment (b : Battle) (n k : Nat) : ReflTransGen Deed b (b.moment n k) :=
  (deeds_playRounds n b).trans (deeds_foldl_takeTurn _ _)

theorem lasting_moment (b : Battle) (n k : Nat) : Lasting b (b.moment n k) :=
  lasting_of_deeds (deeds_moment b n k)

/-- An ant's number is its number at all moments. -/
theorem exists_ant_moment {b : Battle} {id : Nat} (isAnt : id < b.ants.size) (n k : Nat) :
    ∃ a, (b.moment n k).ant? id = some a := by
  rw [← (lasting_moment b n k).size] at isAnt
  exact ⟨_, Array.getElem?_eq_getElem isAnt⟩

theorem lt_size_of_moment {b : Battle} {n k id : Nat} {a : Ant}
    (present : (b.moment n k).ant? id = some a) : id < b.ants.size := by
  rw [← (lasting_moment b n k).size]
  exact (Array.getElem?_eq_some_iff.1 present).1

/-! ### Earlier moments -/

/-- The round ends when all ants have had their turns. -/
theorem moment_next (b : Battle) (n : Nat) :
    b.moment (n + 1) 0 =
      { b.moment n b.ants.size with round := (b.moment n b.ants.size).round + 1 } := by
  have size : (playRounds n b).ants.size = b.ants.size := (lasting_moment b n 0).size
  rw [moment, playRounds_succ, playRound, size]
  rfl

theorem takeTurn_of_size_le {b : Battle} {id : Nat} (beyond : b.ants.size ≤ id) :
    b.takeTurn id = b := by
  have absent : b.ant? id = none := Array.getElem?_eq_none beyond
  simp only [takeTurn, absent]

/-- After the turn of the last ant nothing happens in a round. -/
theorem moment_of_size_le {b : Battle} {n k : Nat} (beyond : b.ants.size ≤ k) :
    b.moment n k = b.moment n b.ants.size := by
  induction k, beyond using Nat.le_induction with
  | base => rfl
  | succ k beyond ih =>
    rw [moment_succ, takeTurn_of_size_le, ih]
    rwa [(lasting_moment b n k).size]

/-- What each turn and each end of a round takes back to the moment before holds at all earlier
moments. -/
theorem moment_backward {P : Battle → Prop} {b : Battle}
    (turn : ∀ n k, P (b.moment n (k + 1)) → P (b.moment n k))
    (pass : ∀ n, P (b.moment (n + 1) 0) → P (b.moment n b.ants.size))
    {n k n' k' : Nat} (later : P (b.moment n k)) (earlier : n' < n ∨ n' = n ∧ k' ≤ k) :
    P (b.moment n' k') := by
  have back {n k : Nat} (later : P (b.moment n k)) : ∀ k' ≤ k, P (b.moment n k') := by
    intro k' le
    induction k, le using Nat.le_induction with
    | base => exact later
    | succ k _ ih => exact ih (turn n k later)
  have whole {n : Nat} (last : P (b.moment n b.ants.size)) (k' : Nat) : P (b.moment n k') := by
    rcases Nat.le_total k' b.ants.size with le | beyond
    · exact back last k' le
    · rwa [moment_of_size_le beyond]
  have rounds : ∀ m, P (b.moment m 0) → ∀ n' < m, ∀ k', P (b.moment n' k') := by
    intro m
    induction m with
    | zero => simp
    | succ m ih =>
      intro start n' before k'
      have ended := pass m start
      rcases Nat.lt_succ_iff_lt_or_eq.1 before with before | rfl
      · exact ih (whole ended 0) n' before k'
      · exact whole ended k'
  rcases earlier with before | ⟨rfl, le⟩
  · exact rounds n (back later 0 (Nat.zero_le k)) n' before k'
  · exact back later k' le

/-! ### Changes that go along with the whole course -/

section Along

variable {g : Battle → Battle} (turn : ∀ b id, (g b).takeTurn id = g (b.takeTurn id))

include turn

theorem foldl_takeTurn_comm (ids : List Nat) (b : Battle) :
    ids.foldl takeTurn (g b) = g (ids.foldl takeTurn b) := by
  induction ids generalizing b with
  | nil => rfl
  | cons id ids ih => rw [List.foldl_cons, List.foldl_cons, turn, ih]

variable (size : ∀ b, (g b).ants.size = b.ants.size)
  (pass : ∀ b, g { b with round := b.round + 1 } = { g b with round := (g b).round + 1 })

include size pass

theorem playRounds_comm (n : Nat) (b : Battle) : playRounds n (g b) = g (playRounds n b) := by
  induction n generalizing b with
  | zero => rfl
  | succ n ih =>
    have round : (g b).playRound = g b.playRound := by
      rw [playRound, size, foldl_takeTurn_comm turn, playRound, pass]
    rw [playRounds, playRounds, round, ih]

/-- A change of the battle that goes along with every turn goes along with the whole course. -/
theorem moment_comm (n k : Nat) (b : Battle) : (g b).moment n k = g (b.moment n k) := by
  rw [moment, playRounds_comm turn size pass, foldl_takeTurn_comm turn, moment]

end Along

/-! ### Later moments -/

/-- What each turn and each end of a round keeps holds at all later moments. -/
theorem moment_forward {P : Battle → Prop} {b : Battle}
    (turn : ∀ n k, P (b.moment n k) → P (b.moment n (k + 1)))
    (pass : ∀ n, P (b.moment n b.ants.size) → P (b.moment (n + 1) 0))
    {n k n' k' : Nat} (first : P (b.moment n k)) (later : n < n' ∨ n = n' ∧ k ≤ k') :
    P (b.moment n' k') := by
  apply Classical.byContradiction
  intro ends
  exact moment_backward (P := fun s => ¬P s) (fun n k ends first => ends (turn n k first))
    (fun n ends first => ends (pass n first)) ends later first

/-- What holds at the start and is kept by every turn and every end of a round holds at all
moments. -/
theorem moment_induction {P : Nat → Nat → Prop} {b : Battle} (first : P 0 0)
    (turn : ∀ n k, P n k → P n (k + 1)) (pass : ∀ n, P n b.ants.size → P (n + 1) 0) (n k : Nat) :
    P n k := by
  have round {n : Nat} (starts : P n 0) (k : Nat) : P n k := by
    induction k with
    | zero => exact starts
    | succ k ih => exact turn n k ih
  induction n generalizing k with
  | zero => exact round first k
  | succ n ih => exact round (pass n (ih _)) k

end Battle

end Formicary
