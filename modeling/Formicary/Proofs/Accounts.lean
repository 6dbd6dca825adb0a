/-
Module: Formicary.Proofs.Accounts
Purpose: What the accounts of a tournament hold after some games: each side of a game goes to the
  first account of its name, and to no other.
Main exports: Game.sides, Standing.enterAll, Standing.enterAll_eq, creditSides,
  foldl_creditGame, creditSides_of_nodup, exists_untouched
-/
import Mathlib
import Formicary.Tournament

namespace Formicary

/-! ### One account -/

namespace Game

/-- The two sides of a game, as they are entered into the accounts. -/
def sides (g : Game) : List (Game × Colony) := Colony.all.map fun c => (g, c)

/-- The name under which a side was played. -/
def sideName (x : Game × Colony) : String := x.1.name x.2

end Game

namespace Standing

/-- Enter some sides of games into an account. -/
def enterAll (s : Standing) (sides : List (Game × Colony)) : Standing :=
  sides.foldl (fun s x => s.enter x.1 x.2) s

@[simp] theorem name_enter (s : Standing) (g : Game) (c : Colony) : (s.enter g c).name = s.name := by
  unfold enter
  cases g.outcome with
  | draw => rfl
  | winner w => dsimp only; split <;> rfl

/-- What one side of a game adds to an account. -/
theorem enter_eq (s : Standing) (g : Game) (c : Colony) :
    s.enter g c =
      { s with
        played := s.played + 1
        wins := s.wins + if g.outcome = .winner c then 1 else 0
        draws := s.draws + if g.outcome = .draw then 1 else 0
        losses := s.losses + if g.outcome = .winner c.foe then 1 else 0
        points := s.points + (2 * (if g.outcome = .winner c then 1 else 0) +
          if g.outcome = .draw then 1 else 0)
        food := s.food + g.food.get c } := by
  unfold enter
  cases g.outcome with
  | draw => simp [drawPoints]
  | winner w => cases w <;> cases c <;> simp [winPoints, Colony.foe]

/-- An account adds up the sides that were entered: how many they are, how many of them won, drew and
lost, two points for each win and one for each draw, and the food on their own anthills. -/
theorem enterAll_eq (s : Standing) (sides : List (Game × Colony)) :
    s.enterAll sides =
      { s with
        played := s.played + sides.length
        wins := s.wins + sides.countP fun x => x.1.outcome = .winner x.2
        draws := s.draws + sides.countP fun x => x.1.outcome = .draw
        losses := s.losses + sides.countP fun x => x.1.outcome = .winner x.2.foe
        points := s.points + (2 * (sides.countP fun x => x.1.outcome = .winner x.2) +
          sides.countP fun x => x.1.outcome = .draw)
        food := s.food + (sides.map fun x => x.1.food.get x.2).sum } := by
  induction sides generalizing s with
  | nil => rfl
  | cons x sides ih =>
    rw [enterAll, List.foldl_cons, ← enterAll, ih, enter_eq]
    simp only [List.length_cons, List.countP_cons, List.map_cons, List.sum_cons,
      decide_eq_true_eq, Standing.mk.injEq, true_and]
    omega

end Standing

/-! ### The whole table -/

/-- Enter some sides of games into a table, each into the first account of its name. -/
def creditSides (table : List Standing) (sides : List (Game × Colony)) : List Standing :=
  sides.foldl (fun table x => creditFirst (Game.sideName x) (·.enter x.1 x.2) table) table

theorem foldl_creditGame (table : List Standing) (games : List Game) :
    games.foldl creditGame table = creditSides table (games.flatMap Game.sides) := by
  induction games generalizing table with
  | nil => rfl
  | cons g games ih =>
    rw [List.foldl_cons, ih, List.flatMap_cons, creditSides, creditSides, List.foldl_append]
    rfl

theorem creditSides_nil (sides : List (Game × Colony)) : creditSides [] sides = [] := by
  induction sides with
  | nil => rfl
  | cons x sides ih => exact ih

/-- The first account takes the sides of its name, and the other accounts share those that are
left. -/
theorem creditSides_cons (s : Standing) (table : List Standing) (sides : List (Game × Colony)) :
    creditSides (s :: table) sides =
      s.enterAll (sides.filter fun x => Game.sideName x = s.name) ::
        creditSides table (sides.filter fun x => Game.sideName x ≠ s.name) := by
  induction sides generalizing s table with
  | nil => rfl
  | cons x sides ih =>
    rw [creditSides, List.foldl_cons, creditFirst, ← creditSides]
    by_cases same : Game.sideName x = s.name
    · rw [if_pos same.symm, ih, Standing.name_enter]
      simp [same, Standing.enterAll]
    · rw [if_neg (Ne.symm same), ih]
      simp [same, creditSides]

/-- Where no name occurs twice, every account takes all sides of its name. -/
theorem creditSides_of_nodup {table : List Standing} (nodup : (table.map Standing.name).Nodup)
    (sides : List (Game × Colony)) :
    creditSides table sides =
      table.map fun s => s.enterAll (sides.filter fun x => Game.sideName x = s.name) := by
  induction table generalizing sides with
  | nil => exact creditSides_nil sides
  | cons s table ih =>
    obtain ⟨fresh, nodup⟩ := List.nodup_cons.1 nodup
    rw [creditSides_cons, ih nodup, List.map_cons]
    congr 1
    apply List.map_congr_left
    intro s' mem
    have differ : s'.name ≠ s.name := fun same => fresh (same ▸ List.mem_map_of_mem mem)
    -- the sides of this name are not among those that the first account has taken
    rw [List.filter_filter]
    congr 2
    funext x
    by_cases own : Game.sideName x = s'.name <;> simp [own, differ]

/-- An account to whose name no side belongs stays as it is. -/
theorem mem_creditSides {table : List Standing} {s : Standing} (mem : s ∈ table)
    {sides : List (Game × Colony)} (none : ∀ x ∈ sides, Game.sideName x ≠ s.name) :
    s ∈ creditSides table sides := by
  induction table generalizing sides with
  | nil => cases mem
  | cons t table ih =>
    rw [creditSides_cons]
    rcases List.mem_cons.1 mem with rfl | mem
    · have nothing : (sides.filter fun x => Game.sideName x = s.name) = [] := by
        simpa using none
      rw [nothing]
      exact List.mem_cons_self
    · exact List.mem_cons_of_mem _ (ih mem fun x isSide => none x (List.mem_of_mem_filter isSide))

/-- Where a name occurs twice, some account stays as it is, whatever the sides. -/
theorem exists_untouched {table : List Standing} (twice : ¬(table.map Standing.name).Nodup)
    (sides : List (Game × Colony)) : ∃ s ∈ table, s ∈ creditSides table sides := by
  induction table generalizing sides with
  | nil => exact absurd List.nodup_nil twice
  | cons s table ih =>
    rw [creditSides_cons]
    rw [List.map_cons, List.nodup_cons, not_and_or, not_not] at twice
    rcases twice with again | later
    · -- a later account of the first one's name gets nothing of what is left
      obtain ⟨s', mem, same⟩ := List.mem_map.1 again
      refine ⟨s', List.mem_cons_of_mem _ mem, List.mem_cons_of_mem _ (mem_creditSides mem ?_)⟩
      intro x isLeft
      rw [same]
      exact of_decide_eq_true (List.mem_filter.1 isLeft).2
    · obtain ⟨s', mem, stays⟩ := ih later (sides.filter fun x => Game.sideName x ≠ s.name)
      exact ⟨s', List.mem_cons_of_mem _ mem, List.mem_cons_of_mem _ stays⟩

end Formicary
