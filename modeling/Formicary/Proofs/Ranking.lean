/-
Module: Formicary.Proofs.Ranking
Purpose: The standings are an exact account of the games in order of merit, and they do not depend
  on the order in which games and names are listed.
Main exports: Standing.rank, Standing.goesBefore_iff, Standing.rank_le_iff, mergeSort_eq_of_perm,
  standings_account_for_games, standings_independent_of_order
-/
import Mathlib
import Formicary.Proofs.Collation
import Formicary.Proofs.Counters

namespace Formicary

/-! ### The order of merit -/

namespace Standing

open OrderDual (toDual)

/-- What an account is ranked by: its points, then its food, then its name. -/
def rank (s : Standing) : ℕᵒᵈ ×ₗ ℕᵒᵈ ×ₗ String :=
  toLex (toDual s.points, toLex (toDual s.food, s.name))

variable {a b : Standing}

theorem goesBefore_iff : a.goesBefore b ↔ a.rank ≤ b.rank := by
  simp only [goesBefore, rank, Prod.Lex.toLex_le_toLex, OrderDual.toDual_lt_toDual,
    OrderDual.toDual_inj]
  by_cases points : a.points = b.points
  · by_cases food : a.food = b.food <;> simp [points, food]
  · simp [points]

/-- More points go first, then more food, and then the name with the lesser bytes. -/
theorem rank_le_iff : a.rank ≤ b.rank ↔ b.points < a.points ∨ a.points = b.points ∧
    (b.food < a.food ∨ a.food = b.food ∧ Text.bytes a.name ≤ Text.bytes b.name) := by
  simp only [rank, Prod.Lex.toLex_le_toLex, OrderDual.toDual_lt_toDual, OrderDual.toDual_inj,
    Text.bytes_le_iff]

theorem name_eq_of_rank_eq (same : a.rank = b.rank) : a.name = b.name := by
  simp only [rank, toLex_inj, Prod.mk.injEq] at same
  exact same.2.2

end Standing

theorem pairwise_mergeSort_rank (table : List Standing) :
    (table.mergeSort Standing.goesBefore).Pairwise fun a b => a.rank ≤ b.rank := by
  have sorted : (table.mergeSort Standing.goesBefore).Pairwise fun a b => a.goesBefore b := by
    apply List.pairwise_mergeSort
    · intro a b c first second
      rw [Standing.goesBefore_iff] at first second ⊢
      exact first.trans second
    · intro a b
      rw [Bool.or_eq_true, Standing.goesBefore_iff, Standing.goesBefore_iff]
      exact le_total _ _
  exact sorted.imp Standing.goesBefore_iff.1

/-- Accounts of different names come into the same order, however they were listed. -/
theorem mergeSort_eq_of_perm {table table' : List Standing} (same : table.Perm table')
    (nodup : (table.map Standing.name).Nodup) :
    table.mergeSort Standing.goesBefore = table'.mergeSort Standing.goesBefore := by
  have sorted := (List.mergeSort_perm table Standing.goesBefore).trans
    (same.trans (List.mergeSort_perm table' Standing.goesBefore).symm)
  refine sorted.eq_of_pairwise ?_ (pairwise_mergeSort_rank table) (pairwise_mergeSort_rank table')
  intro a b memA memB le ge
  have name := Standing.name_eq_of_rank_eq (le_antisymm le ge)
  apply List.inj_on_of_nodup_map nodup _ _ name
  · exact List.mem_mergeSort.1 memA
  · exact same.mem_iff.2 (List.mem_mergeSort.1 memB)

/-! ### The account of the games -/

/-- There is an account for each name. The first account of a name counts the sides of games that
were played under it: how many won, drew and lost, two points for a win and one for a draw, and the
food on their anthills. Any other account of the name stays empty, and a side with another name
counts for nobody. Two points are given away for each game, if all that play have an account, and
then there are as many wins as losses. The accounts go by points, most first, then by food, most
first, and then by the bytes of the names. No counter overflows. -/
theorem standings_account_for_games {names : List String} {games : List Game}
    (few : games.length < 2 ^ 31)
    (food : ∀ name ∈ names, (Standing.ofSides name (games.flatMap Game.sides)).food < 2 ^ 64) :
    Guarded.standings names games = .ok (standings names games) ∧
      (standings names games).length = names.length ∧
      ((standings names games).map Standing.name).Perm names ∧
      (standings names games).Perm (accounts names (games.flatMap Game.sides)) ∧
      (∀ s ∈ standings names games,
        s.played = s.wins + s.draws + s.losses ∧ s.points = 2 * s.wins + s.draws) ∧
      ((∀ g ∈ games, ∀ c, g.name c ∈ names) →
        ((standings names games).map Standing.points).sum = 2 * games.length ∧
        ((standings names games).map Standing.wins).sum =
          ((standings names games).map Standing.losses).sum ∧
        ((standings names games).map Standing.played).sum = 2 * games.length) ∧
      (standings names games).Pairwise fun a b => b.points < a.points ∨ a.points = b.points ∧
        (b.food < a.food ∨ a.food = b.food ∧ Text.bytes a.name ≤ Text.bytes b.name) := by
  have table : (standings names games).Perm (accounts names (games.flatMap Game.sides)) := by
    rw [standings_eq]
    exact List.mergeSort_perm _ _
  have named : ((standings names games).map Standing.name).Perm names :=
    (table.map Standing.name).trans (.of_eq (map_name_accounts _ _))
  refine ⟨Guarded.standings_eq few food, ?length, named, table, ?rows, ?sums, ?sorted⟩
  case length => simpa using named.length_eq
  case rows => exact fun s mem => adds_up_of_mem_accounts (table.subset mem)
  case sums => exact fun known => accounts_balance known table
  case sorted =>
    rw [standings_eq]
    exact (pairwise_mergeSort_rank _).imp Standing.rank_le_iff.1

/-- Three games of two brains, one of them against itself. -/
def friendlies : List Game := [
  { red := "zed", black := "amy", seed := 1, outcome := .draw, food := ⟨0, 4⟩ },
  { red := "amy", black := "zed", seed := 1, outcome := .winner .black, food := ⟨1, 5⟩ },
  { red := "zed", black := "zed", seed := 2, outcome := .winner .red, food := ⟨2, 3⟩ }]

/-- A name that is listed twice has all its games in the first account, and a game against itself
counts twice. -/
theorem friendlies_accounted :
    (standings ["zed", "amy", "zed"] friendlies).map
        (fun s => (s.name, s.played, s.wins, s.draws, s.losses, s.points, s.food)) =
      [("zed", 4, 2, 1, 1, 5, 10), ("amy", 2, 0, 1, 1, 1, 5), ("zed", 0, 0, 0, 0, 0, 0)] ∧
    Guarded.standings ["zed", "amy", "zed"] friendlies =
      .ok (standings ["zed", "amy", "zed"] friendlies) ∧
    ((standings ["zed", "amy", "zed"] friendlies).map Standing.points).sum = 6 := by
  have known : ∀ g ∈ friendlies, ∀ c, g.name c ∈ ["zed", "amy", "zed"] := by
    intro g mem c
    cases c <;> revert g <;> decide
  obtain ⟨words, -, -, -, -, sums, -⟩ :=
    @standings_account_for_games ["zed", "amy", "zed"] friendlies (by decide) (by decide)
  exact ⟨by cbv, words, (sums known).1⟩

/-! ### Other orders of games and names -/

theorem accounts_perm (names : List String) {sides sides' : List (Game × Colony)}
    (same : sides.Perm sides') : accounts names sides = accounts names sides' := by
  simp only [accounts, Standing.ofSides_perm _ same]

theorem accounts_of_nodup {names : List String} (nodup : names.Nodup)
    (sides : List (Game × Colony)) :
    accounts names sides = names.map fun name => .ofSides name sides := by
  have own : (names.map fun name => ({ name } : Standing)).map Standing.name = names := by
    rw [List.map_map]
    exact List.map_id names
  rw [← creditSides_eq_accounts, creditSides_of_nodup (own.symm ▸ nodup), List.map_map]
  exact List.map_congr_left fun name _ => Standing.enterAll_fresh name sides

theorem standings_perm_games (names : List String) {games games' : List Game}
    (same : games.Perm games') : standings names games' = standings names games := by
  rw [standings_eq, standings_eq, accounts_perm names (same.flatMap_right Game.sides)]

theorem standings_perm_names {names names' : List String} (same : names.Perm names')
    (nodup : names.Nodup) (games : List Game) : standings names' games = standings names games := by
  rw [standings_eq, standings_eq, accounts_of_nodup nodup,
    accounts_of_nodup (same.nodup_iff.1 nodup)]
  symm
  apply mergeSort_eq_of_perm (same.map _)
  rw [← accounts_of_nodup nodup, map_name_accounts]
  exact nodup

/-- The standings are the same for every order of the games. If no name is listed twice, then they
are the same for every order of the names, too. No counter overflows in one order that does not in
another. -/
theorem standings_independent_of_order {names : List String} {games games' : List Game}
    (same : games.Perm games') :
    standings names games' = standings names games ∧
      (names.Nodup → ∀ names', names.Perm names' →
        standings names' games' = standings names games) ∧
      (games.length < 2 ^ 31 →
        (∀ name ∈ names, (Standing.ofSides name (games.flatMap Game.sides)).food < 2 ^ 64) →
        ∀ names', names' = names ∨ names.Nodup ∧ names.Perm names' →
          Guarded.standings names' games' = .ok (standings names games)) := by
  have byGames : standings names games' = standings names games := standings_perm_games names same
  have byNames (nodup : names.Nodup) (names' : List String) (listed : names.Perm names') :
      standings names' games' = standings names games :=
    (standings_perm_names listed nodup games').trans byGames
  refine ⟨byGames, byNames, fun few food names' listed => ?_⟩
  have members : ∀ name ∈ names', name ∈ names := by
    rcases listed with rfl | ⟨-, listed⟩
    · exact fun _ => id
    · exact fun _ => listed.mem_iff.2
  have plain : standings names' games' = standings names games := by
    rcases listed with rfl | ⟨nodup, listed⟩
    · exact byGames
    · exact byNames nodup names' listed
  rw [← plain]
  apply Guarded.standings_eq
  · rwa [← same.length_eq]
  · intro name mem
    rw [← Standing.ofSides_perm name (same.flatMap_right Game.sides)]
    exact food name (members name mem)

/-- The same table from the games in reverse and from the names in reverse. -/
theorem friendlies_in_reverse :
    friendlies.Perm friendlies.reverse ∧
      standings ["amy", "zed"] friendlies.reverse = standings ["zed", "amy"] friendlies ∧
      Guarded.standings ["amy", "zed"] friendlies.reverse =
        .ok (standings ["zed", "amy"] friendlies) ∧
      (standings ["zed", "amy"] friendlies).map Standing.points = [5, 1] := by
  have reversed : friendlies.Perm friendlies.reverse := friendlies.reverse_perm.symm
  have distinct : ["zed", "amy"].Nodup := by decide
  have listed : ["zed", "amy"].Perm ["amy", "zed"] := (List.reverse_perm _).symm
  obtain ⟨-, names, counters⟩ := @standings_independent_of_order ["zed", "amy"] _ _ reversed
  exact ⟨reversed, names distinct _ listed,
    counters (by decide) (by decide) _ (.inr ⟨distinct, listed⟩), by cbv⟩

end Formicary
