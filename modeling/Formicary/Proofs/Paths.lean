/-
Module: Formicary.Proofs.Paths
Purpose: The distance of two cells is the length of a shortest path between them, and words of 32
  bits are wide enough to compute it and to walk the path.
Main exports: Hex.walk, Hex.distance_walk_le, Hex.exists_neighbor_toward, Hex.exists_path, WordHex,
  WordHex.toNat_distance, Hex.distance_is_shortest
-/
import Formicary.Proofs.Distance

namespace Formicary

namespace Hex

variable {a b : Hex}

/-! ### The sum of the three coordinate distances -/

/-- The sum that is halved is even, because the three coordinates of each cell add up to zero. -/
theorem two_mul_distance (a b : Hex) :
    2 * a.distance b = (a.u - b.u).natAbs + (a.v - b.v).natAbs + (a.w - b.w).natAbs := by
  simp only [distance, w]
  omega

theorem distance_eq_zero_iff : a.distance b = 0 ↔ a = b := by
  rw [← Nat.le_zero, distance_le_iff]
  cases a
  cases b
  simp only [w, mk.injEq]
  omega

theorem distance_comm (a b : Hex) : a.distance b = b.distance a := by
  rw [distance, distance, ← Int.natAbs_neg (a.u - b.u), ← Int.natAbs_neg (a.v - b.v),
    ← Int.natAbs_neg (a.w - b.w), neg_sub, neg_sub, neg_sub]

/-! ### Paths -/

/-- Where a walk ends that makes some steps one after the other. -/
def walk (h : Hex) (path : List Direction) : Hex := path.foldl neighbor h

@[simp] theorem walk_nil (h : Hex) : h.walk [] = h := rfl

@[simp] theorem walk_cons (h : Hex) (d : Direction) (path : List Direction) :
    h.walk (d :: path) = (h.neighbor d).walk path := rfl

/-- No path is shorter than the distance of its ends. -/
theorem distance_walk_le (h : Hex) (path : List Direction) :
    h.distance (h.walk path) ≤ path.length := by
  induction path generalizing h with
  | nil => exact (distance_self h).le
  | cons d path ih =>
    calc h.distance (h.walk (d :: path))
        ≤ h.distance (h.neighbor d) + (h.neighbor d).distance (h.walk (d :: path)) :=
          distance_triangle _ _ _
      _ ≤ 1 + path.length := Nat.add_le_add (distance_neighbor h d).le (ih (h.neighbor d))
      _ = (d :: path).length := Nat.add_comm 1 path.length

/-- From any other cell a step leads towards `b`, and in neither coordinate does it lead out of
those between the two cells. -/
theorem exists_neighbor_toward (apart : a ≠ b) :
    ∃ d, (a.neighbor d).distance b + 1 = a.distance b ∧
      (a.neighbor d).u ∈ Set.uIcc a.u b.u ∧ (a.neighbor d).v ∈ Set.uIcc a.v b.v := by
  have elsewhere : a.u ≠ b.u ∨ a.v ≠ b.v := by
    by_contra same
    push Not at same
    exact apart (by cases a; cases b; simpa using same)
  simp only [Set.mem_uIcc, neighbor, distance, w]
  -- a diagonal step serves both coordinates where they have to change in opposite senses
  rcases lt_trichotomy a.u b.u with below | level | above
  case inl =>
    rcases lt_or_ge b.v a.v with left | right
    · exact ⟨2, by simp only [Direction.du, Direction.dv]; omega⟩
    · exact ⟨1, by simp only [Direction.du, Direction.dv]; omega⟩
  case inr.inl =>
    rcases lt_or_ge b.v a.v with left | right
    · exact ⟨3, by simp only [Direction.du, Direction.dv]; omega⟩
    · exact ⟨0, by simp only [Direction.du, Direction.dv]; omega⟩
  case inr.inr =>
    rcases lt_or_ge a.v b.v with right | left
    · exact ⟨5, by simp only [Direction.du, Direction.dv]; omega⟩
    · exact ⟨4, by simp only [Direction.du, Direction.dv]; omega⟩

theorem Close.of_mem_uIcc {c : Hex} (here : a.Close) (there : b.Close)
    (row : c.u ∈ Set.uIcc a.u b.u) (column : c.v ∈ Set.uIcc a.v b.v) : c.Close := by
  have := here.row
  have := here.column
  have := there.row
  have := there.column
  rw [Set.mem_uIcc] at row column
  constructor <;> omega

/-- There is a path as long as the distance, and it does not come near the limits of words. -/
theorem exists_path (here : a.Close) (there : b.Close) :
    ∃ path, path.length = a.distance b ∧ a.walk path = b ∧
      ∀ front, front <+: path → (a.walk front).Close := by
  induction steps : a.distance b generalizing a with
  | zero =>
    refine ⟨[], rfl, distance_eq_zero_iff.1 steps, fun front before => ?_⟩
    rw [List.prefix_nil.1 before]
    exact here
  | succ n ih =>
    have apart : a ≠ b := fun same => by
      rw [distance_eq_zero_iff.2 same] at steps
      cases steps
    obtain ⟨d, nearer, row, column⟩ := exists_neighbor_toward apart
    obtain ⟨path, length, arrives, close⟩ := ih (here.of_mem_uIcc there row column) (by omega)
    refine ⟨d :: path, congrArg (· + 1) length, arrives, fun front before => ?_⟩
    rcases List.prefix_cons_iff.1 before with rfl | ⟨rest, rfl, within⟩
    · exact here
    · exact close rest within

end Hex

/-! ### On words -/

/-- A cell as a machine with words of 32 bits holds it. Sums and differences wrap around. -/
structure WordHex where
  u : Int32
  v : Int32
deriving DecidableEq

namespace WordHex

/-- The cell of the plane that the words stand for. -/
def toHex (h : WordHex) : Hex := { u := h.u.toInt, v := h.v.toInt }

/-- The third coordinate. -/
def w (h : WordHex) : Int32 := -h.u - h.v

/-- The cell one step away. -/
def neighbor (h : WordHex) (d : Direction) : WordHex :=
  { u := h.u + .ofInt d.du, v := h.v + .ofInt d.dv }

/-- Where a walk ends that makes some steps one after the other. -/
def walk (h : WordHex) (path : List Direction) : WordHex := path.foldl neighbor h

/-- Number of steps from one cell to another. -/
def distance (a b : WordHex) : UInt32 :=
  (((a.u - b.u).abs + (a.v - b.v).abs + (a.w - b.w).abs) / 2).toUInt32

theorem toHex_injective : Function.Injective toHex := by
  intro a b same
  obtain ⟨row, column⟩ := Hex.mk.inj same
  cases a
  cases b
  rw [mk.injEq]
  exact ⟨Int32.toInt_inj.1 row, Int32.toInt_inj.1 column⟩

/-! #### Results that fit a word -/

section Words

variable {x y : Int32}

theorem toInt_add (fits : (x.toInt + y.toInt).natAbs < 2 ^ 31) :
    (x + y).toInt = x.toInt + y.toInt := by
  rw [Int32.toInt_add]
  apply Int.bmod_eq_of_le <;> omega

theorem toInt_sub (fits : (x.toInt - y.toInt).natAbs < 2 ^ 31) :
    (x - y).toInt = x.toInt - y.toInt := by
  rw [Int32.toInt_sub]
  apply Int.bmod_eq_of_le <;> omega

theorem toInt_neg (fits : x.toInt.natAbs < 2 ^ 31) : (-x).toInt = -x.toInt := by
  rw [Int32.toInt_neg]
  apply Int.bmod_eq_of_le <;> omega

theorem toInt_abs (fits : x.toInt.natAbs < 2 ^ 31) : x.abs.toInt = x.toInt.natAbs := by
  -- only the least word has no absolute value
  have notLeast : x.toBitVec ≠ BitVec.intMin 32 := by
    intro least
    have value : x.toInt = -2 ^ 31 := by
      rw [← Int32.toInt_toBitVec, least]
      decide
    omega
  have abs := BitVec.toInt_abs_eq_natAbs (x := x.toBitVec)
  rwa [if_neg notLeast] at abs

theorem toInt_abs_sub (fits : (x.toInt - y.toInt).natAbs < 2 ^ 31) :
    (x - y).abs.toInt = (x.toInt - y.toInt).natAbs := by
  rw [toInt_abs (by rwa [toInt_sub fits]), toInt_sub fits]

theorem toNat_half {n : Nat} (value : x.toInt = n) : (x / 2).toUInt32.toNat = n / 2 := by
  have small : x.toInt < 2 ^ 31 := x.toInt_lt
  have half : (x / 2).toInt = (n / 2 : Nat) := by
    rw [Int32.toInt_div, value]
    change Int.bmod (Int.tdiv n 2) (2 ^ 32) = _
    rw [Int.tdiv_eq_ediv_of_nonneg (Int.natCast_nonneg n)]
    apply Int.bmod_eq_of_le <;> omega
  have nonneg : 0 ≤ x / 2 := by
    rw [Int32.le_iff_toInt_le, half]
    exact Int.natCast_nonneg _
  rw [Int32.toNat_toUInt32_of_le nonneg, Int32.toNatClampNeg, half, Int.toNat_natCast]

end Words

/-! #### Cells far from the limits of words -/

section Close

variable {a b : WordHex} (here : a.toHex.Close)

include here

theorem toInt_w : a.w.toInt = a.toHex.w := by
  have row : a.u.toInt.natAbs < 2 ^ 28 := here.row
  have column : a.v.toInt.natAbs < 2 ^ 28 := here.column
  have minus : (-a.u).toInt = -a.u.toInt := toInt_neg (by omega)
  rw [w, toInt_sub (by omega), minus]
  rfl

/-- On words the distance comes out as it is on the plane. -/
theorem toNat_distance (there : b.toHex.Close) :
    (a.distance b).toNat = a.toHex.distance b.toHex := by
  have fits := here.sum_lt there
  rw [Hex.distance]
  rw [← toInt_w here, ← toInt_w there] at fits ⊢
  simp only [toHex] at fits ⊢
  have rows := toInt_abs_sub (x := a.u) (y := b.u) (by omega)
  have columns := toInt_abs_sub (x := a.v) (y := b.v) (by omega)
  have diagonals := toInt_abs_sub (x := a.w) (y := b.w) (by omega)
  have two := toInt_add (x := (a.u - b.u).abs) (y := (a.v - b.v).abs) (by omega)
  have three := toInt_add (x := (a.u - b.u).abs + (a.v - b.v).abs) (y := (a.w - b.w).abs) (by omega)
  apply toNat_half
  rw [three, two, rows, columns, diagonals]
  simp only [Int.natCast_add]

/-- A step on words is a step on the plane. -/
theorem toHex_neighbor (d : Direction) : (a.neighbor d).toHex = a.toHex.neighbor d := by
  have row : a.u.toInt.natAbs < 2 ^ 28 := here.row
  have column : a.v.toInt.natAbs < 2 ^ 28 := here.column
  have delta : (Int32.ofInt d.du).toInt = d.du ∧ (Int32.ofInt d.dv).toInt = d.dv := by
    revert d
    decide
  have unit : d.du.natAbs ≤ 1 ∧ d.dv.natAbs ≤ 1 := by
    revert d
    decide
  simp only [toHex, neighbor, Hex.neighbor]
  rw [toInt_add (by omega), toInt_add (by omega), delta.1, delta.2]

end Close

/-- So is a walk that never leaves those cells. -/
theorem toHex_walk {a : WordHex} {path : List Direction}
    (close : ∀ front, front <+: path → (a.toHex.walk front).Close) :
    (a.walk path).toHex = a.toHex.walk path := by
  induction path generalizing a with
  | nil => rfl
  | cons d path ih =>
    have step : (a.neighbor d).toHex = a.toHex.neighbor d :=
      toHex_neighbor (close [] List.nil_prefix) d
    calc ((a.neighbor d).walk path).toHex
        = (a.neighbor d).toHex.walk path := by
          apply ih
          intro front before
          rw [step]
          exact close (d :: front) (List.cons_prefix_cons.2 ⟨rfl, before⟩)
      _ = a.toHex.walk (d :: path) := by rw [step, Hex.walk_cons]

end WordHex

/-! ### The distance as a minimum -/

namespace Hex

/-- The distance of two cells is the least number of steps that lead from one to the other. The sum
that it is half of is even; only a cell and itself have no distance; and the distance is symmetric
and satisfies the triangle inequality. All this is so on words of 32 bits, which hold the sum and
every cell of some shortest path. -/
theorem distance_is_shortest {a b : Hex} (here : a.Close) (there : b.Close) :
    IsLeast {n | ∃ path : List Direction, path.length = n ∧ a.walk path = b} (a.distance b) ∧
      2 * a.distance b = (a.u - b.u).natAbs + (a.v - b.v).natAbs + (a.w - b.w).natAbs ∧
      (a.distance b = 0 ↔ a = b) ∧ a.distance b = b.distance a ∧
      (∀ c, a.distance c ≤ a.distance b + b.distance c) ∧
      2 * a.distance b < 2 ^ 31 ∧
      ∀ a' b' : WordHex, a'.toHex = a → b'.toHex = b →
        (a'.distance b').toNat = a.distance b ∧
          ∃ path : List Direction, path.length = a.distance b ∧ a'.walk path = b' := by
  obtain ⟨path, length, arrives, close⟩ := exists_path here there
  refine ⟨⟨⟨path, length, arrives⟩, ?least⟩, two_mul_distance a b, distance_eq_zero_iff,
    distance_comm a b, distance_triangle a b, ?fits, ?words⟩
  case least =>
    rintro n ⟨path, rfl, rfl⟩
    exact distance_walk_le a path
  case fits =>
    rw [two_mul_distance]
    exact here.sum_lt there
  case words =>
    rintro a' b' rfl rfl
    refine ⟨WordHex.toNat_distance here there, path, length, WordHex.toHex_injective ?_⟩
    rw [WordHex.toHex_walk close, arrives]

/-- Three rows up and five columns back are eight steps, three rows down and five columns back are
only five: a step to the south-west does both. -/
theorem distance_of_sectors :
    (⟨0, 0⟩ : Hex).Close ∧ (⟨-3, -5⟩ : Hex).Close ∧ (⟨3, -5⟩ : Hex).Close ∧
      IsLeast {n | ∃ path : List Direction, path.length = n ∧ walk ⟨0, 0⟩ path = ⟨-3, -5⟩} 8 ∧
      IsLeast {n | ∃ path : List Direction, path.length = n ∧ walk ⟨0, 0⟩ path = ⟨3, -5⟩} 5 := by
  have here : (⟨0, 0⟩ : Hex).Close := ⟨by decide, by decide⟩
  have upwards : (⟨-3, -5⟩ : Hex).Close := ⟨by decide, by decide⟩
  have downwards : (⟨3, -5⟩ : Hex).Close := ⟨by decide, by decide⟩
  exact ⟨here, upwards, downwards, (distance_is_shortest here upwards).1,
    (distance_is_shortest here downwards).1⟩

end Hex

end Formicary
