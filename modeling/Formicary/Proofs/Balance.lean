/-
Module: Formicary.Proofs.Balance
Purpose: What the accounts of all names hold after some games, and what they come to together.
Main exports: Standing.ofSides, accounts, accounts_cons, creditSides_eq_accounts, standings_eq,
  sum_accounts, Game.balance, accounts_balance
-/
import Mathlib
import Formicary.Proofs.Accounts

namespace Formicary

/-! ### The account of a name -/

namespace Game

/-- The colony of a side has won its game. -/
def won (x : Game × Colony) : Bool := x.1.outcome = .winner x.2

/-- The game of a side is drawn. -/
def drawn (x : Game × Colony) : Bool := x.1.outcome = .draw

/-- The colony of a side has lost its game. -/
def lost (x : Game × Colony) : Bool := x.1.outcome = .winner x.2.foe

/-- The food on the anthill of a side. -/
def earned (x : Game × Colony) : Nat := x.1.food.get x.2

theorem one_of_ends (x : Game × Colony) :
    ((if won x then 1 else 0) + (if drawn x then 1 else 0) + if lost x then 1 else 0) = 1 := by
  obtain ⟨g, c⟩ := x
  cases outcome : g.outcome with
  | draw => simp [won, drawn, lost, outcome]
  | winner w => cases w <;> cases c <;> simp [won, drawn, lost, outcome, Colony.foe]

/-- Each side has won, drawn or lost, and only one of these. -/
theorem length_eq_countP (sides : List (Game × Colony)) :
    sides.length = sides.countP won + sides.countP drawn + sides.countP lost := by
  induction sides with
  | nil => rfl
  | cons x sides ih =>
    have one := one_of_ends x
    simp only [List.length_cons, List.countP_cons]
    omega

end Game

namespace Standing

/-- The account of a name among some sides of games: how many of its sides won, drew and lost, two
points for each win and one for each draw, and the food on its own anthills. -/
def ofSides (name : String) (sides : List (Game × Colony)) : Standing :=
  let own := sides.filter fun x => Game.sideName x = name
  { name
    played := own.length
    wins := own.countP Game.won
    draws := own.countP Game.drawn
    losses := own.countP Game.lost
    points := 2 * own.countP Game.won + own.countP Game.drawn
    food := (own.map Game.earned).sum }

theorem enterAll_fresh (name : String) (sides : List (Game × Colony)) :
    ({ name } : Standing).enterAll (sides.filter fun x => Game.sideName x = name) =
      ofSides name sides := by
  rw [enterAll_eq]
  simp only [Nat.zero_add]
  rfl

theorem ofSides_congr {name : String} {sides sides' : List (Game × Colony)}
    (own : sides.filter (fun x => Game.sideName x = name) =
      sides'.filter fun x => Game.sideName x = name) :
    ofSides name sides = ofSides name sides' := by
  rw [← enterAll_fresh, own, enterAll_fresh]

theorem ofSides_of_forall_ne {name : String} {sides : List (Game × Colony)}
    (none : ∀ x ∈ sides, Game.sideName x ≠ name) : ofSides name sides = { name } := by
  have own : sides.filter (fun x => Game.sideName x = name) = [] := by simpa using none
  rw [← enterAll_fresh, own]
  rfl

/-- An account does not depend on the order of the games. -/
theorem ofSides_perm (name : String) {sides sides' : List (Game × Colony)}
    (same : sides.Perm sides') : ofSides name sides = ofSides name sides' := by
  have own := same.filter fun x => decide (Game.sideName x = name)
  simp only [ofSides, own.length_eq, own.countP_eq, (own.map Game.earned).sum_eq]

end Standing

/-! ### The accounts of all names -/

/-- The accounts of some names, in their order. The first account of a name has all sides that were
played under it, and the others of that name have none. -/
def accounts (names : List String) (sides : List (Game × Colony)) : List Standing :=
  names.mapIdx fun i name => if name ∈ names.take i then { name } else .ofSides name sides

theorem accounts_cons (name : String) (names : List String) (sides : List (Game × Colony)) :
    accounts (name :: names) sides =
      .ofSides name sides :: accounts names (sides.filter fun x => Game.sideName x ≠ name) := by
  rw [accounts, List.mapIdx_cons, accounts]
  congr 1
  rw [List.mapIdx_eq_mapIdx_iff]
  intro i inside
  simp only [List.take_succ_cons, List.mem_cons]
  by_cases again : names[i] = name
  · -- nothing is left for another account of the first name
    have none : ∀ x ∈ sides.filter (fun x => Game.sideName x ≠ name),
        Game.sideName x ≠ names[i] := by
      simp [again]
    rw [Standing.ofSides_of_forall_ne none]
    simp [again]
  · have own : Standing.ofSides names[i] (sides.filter fun x => Game.sideName x ≠ name) =
        .ofSides names[i] sides := by
      apply Standing.ofSides_congr
      rw [List.filter_filter]
      congr 1
      funext x
      by_cases own : Game.sideName x = names[i] <;> simp [own, again]
    simp only [own, again, false_or]

theorem creditSides_eq_accounts (names : List String) (sides : List (Game × Colony)) :
    creditSides (names.map fun name => { name }) sides = accounts names sides := by
  induction names generalizing sides with
  | nil => exact creditSides_nil sides
  | cons name names ih =>
    rw [List.map_cons, creditSides_cons, Standing.enterAll_fresh, ih, accounts_cons]

/-- The standings are the accounts of the names, put in order. -/
theorem standings_eq (names : List String) (games : List Game) :
    standings names games =
      (accounts names (games.flatMap Game.sides)).mergeSort Standing.goesBefore := by
  rw [standings, foldl_creditGame, creditSides_eq_accounts]

theorem map_name_accounts (names : List String) (sides : List (Game × Colony)) :
    (accounts names sides).map Standing.name = names := by
  induction names generalizing sides with
  | nil => rfl
  | cons name names ih => rw [accounts_cons, List.map_cons, ih, Standing.ofSides]

/-- An account has as many games as it has wins, draws and losses. -/
theorem adds_up_of_mem_accounts {names : List String} {sides : List (Game × Colony)} {s : Standing}
    (mem : s ∈ accounts names sides) :
    s.played = s.wins + s.draws + s.losses ∧ s.points = 2 * s.wins + s.draws := by
  obtain ⟨i, inside, rfl⟩ := List.mem_mapIdx.1 mem
  split
  · exact ⟨rfl, rfl⟩
  · exact ⟨Game.length_eq_countP _, rfl⟩

/-! ### All accounts together -/

/-- If all sides were played under names that have an account, then the accounts together have as
many sides of a kind as there are. -/
theorem sum_accounts {names : List String} {sides : List (Game × Colony)}
    (known : ∀ x ∈ sides, Game.sideName x ∈ names) {f : Standing → Nat}
    {kind : Game × Colony → Bool}
    (counts : ∀ name sides, f (.ofSides name sides) =
      (sides.filter fun x => Game.sideName x = name).countP kind) :
    ((accounts names sides).map f).sum = sides.countP kind := by
  induction names generalizing sides with
  | nil =>
    have none : sides = [] := List.eq_nil_iff_forall_not_mem.2 fun x mem => nomatch known x mem
    rw [none]
    rfl
  | cons name names ih =>
    have others : ∀ x ∈ sides.filter (fun x => Game.sideName x ≠ name),
        Game.sideName x ∈ names := by
      intro x mem
      obtain ⟨isSide, other⟩ := List.mem_filter.1 mem
      exact (List.mem_cons.1 (known x isSide)).resolve_left (of_decide_eq_true other)
    rw [accounts_cons, List.map_cons, List.sum_cons, counts, ih others,
      List.countP_eq_countP_filter_add sides kind fun x => Game.sideName x = name]
    simp only [ne_eq, decide_not]

namespace Game

/-- One side of a game has won and the other has lost, or both have drawn. -/
theorem sides_balance (g : Game) :
    g.sides.countP won = g.sides.countP lost ∧
      2 * g.sides.countP won + g.sides.countP drawn = 2 := by
  cases outcome : g.outcome with
  | draw => simp [sides, Colony.all, won, lost, drawn, outcome]
  | winner w => cases w <;> simp [sides, Colony.all, won, lost, drawn, outcome, Colony.foe]

/-- As many sides win as lose, and every game is worth two points. -/
theorem balance (games : List Game) :
    (games.flatMap sides).countP won = (games.flatMap sides).countP lost ∧
      2 * (games.flatMap sides).countP won + (games.flatMap sides).countP drawn =
        2 * games.length := by
  induction games with
  | nil => exact ⟨rfl, rfl⟩
  | cons g games ih =>
    have one := sides_balance g
    simp only [List.flatMap_cons, List.countP_append, List.length_cons]
    omega

end Game

/-- If all games are between names that have an account, then the accounts have two points for each
game, as many wins as losses, and each game twice. -/
theorem accounts_balance {names : List String} {games : List Game}
    (known : ∀ g ∈ games, ∀ c, g.name c ∈ names) {table : List Standing}
    (same : table.Perm (accounts names (games.flatMap Game.sides))) :
    (table.map Standing.points).sum = 2 * games.length ∧
      (table.map Standing.wins).sum = (table.map Standing.losses).sum ∧
      (table.map Standing.played).sum = 2 * games.length := by
  have sidesKnown : ∀ x ∈ games.flatMap Game.sides, Game.sideName x ∈ names := by
    intro x mem
    obtain ⟨g, isGame, isSide⟩ := List.mem_flatMap.1 mem
    obtain ⟨c, -, rfl⟩ := List.mem_map.1 isSide
    exact known g isGame c
  have wins : (table.map Standing.wins).sum = (games.flatMap Game.sides).countP Game.won :=
    (same.map _).sum_eq.trans (sum_accounts sidesKnown fun _ _ => rfl)
  have draws : (table.map Standing.draws).sum = (games.flatMap Game.sides).countP Game.drawn :=
    (same.map _).sum_eq.trans (sum_accounts sidesKnown fun _ _ => rfl)
  have losses : (table.map Standing.losses).sum = (games.flatMap Game.sides).countP Game.lost :=
    (same.map _).sum_eq.trans (sum_accounts sidesKnown fun _ _ => rfl)
  have each (s : Standing) (mem : s ∈ table) := adds_up_of_mem_accounts (same.subset mem)
  have points : (table.map Standing.points).sum =
      2 * (table.map Standing.wins).sum + (table.map Standing.draws).sum := by
    rw [List.map_congr_left fun s mem => (each s mem).2, List.sum_map_add,
      List.sum_map_mul_left]
  have played : (table.map Standing.played).sum = (table.map Standing.wins).sum +
      (table.map Standing.draws).sum + (table.map Standing.losses).sum := by
    rw [List.map_congr_left fun s mem => (each s mem).1, List.sum_map_add, List.sum_map_add]
  have total := Game.balance games
  omega

end Formicary
