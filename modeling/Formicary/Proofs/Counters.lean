/-
Module: Formicary.Proofs.Counters
Purpose: The standings with their counters in words: no counter overflows as long as there are fewer
  than 2^31 games and the food of each name fits its word.
Main exports: Guarded.enterSide, Guarded.creditFirst, Guarded.standings, Standing.Fits,
  Guarded.standings_eq_of_fits, fits_of_mem_accounts, Guarded.standings_eq
-/
import Mathlib
import Formicary.Proofs.Balance
import Formicary.Proofs.Guarded

namespace Formicary

/-! ### Accounts in words -/

/-- The counters of an account fit their words. Games and points are counted in words of 32 bits and
food in words of 64. -/
structure Standing.Fits (s : Standing) : Prop where
  played : s.played < UInt32.size
  wins : s.wins < UInt32.size
  draws : s.draws < UInt32.size
  losses : s.losses < UInt32.size
  points : s.points < UInt32.size
  food : s.food < UInt64.size

namespace Guarded

/-- Enter one side of a game into an account. -/
def enterSide (s : Standing) (g : Game) (c : Colony) : Except Hazard Standing := do
  let played ← add UInt32.size s.played 1
  let food ← add UInt64.size s.food (g.food.get c)
  let s := { s with played, food }
  match g.outcome with
  | .winner w =>
    if w = c then
      let wins ← add UInt32.size s.wins 1
      let points ← add UInt32.size s.points winPoints
      return { s with wins, points }
    else
      let losses ← add UInt32.size s.losses 1
      return { s with losses }
  | .draw =>
    let draws ← add UInt32.size s.draws 1
    let points ← add UInt32.size s.points drawPoints
    return { s with draws, points }

/-- Change the first account of a name. -/
def creditFirst (name : String) (f : Standing → Except Hazard Standing) :
    List Standing → Except Hazard (List Standing)
  | [] => .ok []
  | s :: rest => do
    if s.name = name then
      let s ← f s
      return s :: rest
    else
      let rest ← creditFirst name f rest
      return s :: rest

/-- Enter both sides of a game. -/
def creditGame (table : List Standing) (g : Game) : Except Hazard (List Standing) :=
  Colony.all.foldlM (fun table c => creditFirst (g.name c) (enterSide · g c) table) table

/-- The accounts of all names after some games, the best first. -/
def standings (names : List String) (games : List Game) : Except Hazard (List Standing) := do
  let table ← games.foldlM creditGame (names.map fun name => { name })
  return table.mergeSort Standing.goesBefore

/-- Enter some sides of games into a table. -/
def creditSides (table : List Standing) (sides : List (Game × Colony)) :
    Except Hazard (List Standing) :=
  sides.foldlM (fun table x => creditFirst (Game.sideName x) (enterSide · x.1 x.2) table) table

theorem foldlM_creditGame (table : List Standing) (games : List Game) :
    games.foldlM creditGame table = creditSides table (games.flatMap Game.sides) := by
  induction games generalizing table with
  | nil => rfl
  | cons g games ih =>
    have both : creditGame table g = creditSides table g.sides := by
      rw [creditGame, creditSides, Game.sides, List.foldlM_map]
      rfl
    rw [List.foldlM_cons, List.flatMap_cons, creditSides, List.foldlM_append, both]
    exact bind_congr ih

/-! ### Counters that fit in the end fit all along -/

theorem enterSide_eq {s : Standing} {g : Game} {c : Colony} (fits : (s.enter g c).Fits) :
    enterSide s g c = .ok (s.enter g c) := by
  rw [Standing.enter_eq] at fits
  apply bind_eq_ok (add_eq fits.played)
  apply bind_eq_ok (add_eq fits.food)
  cases outcome : g.outcome with
  | draw =>
    simp only [Standing.enter, outcome]
    apply bind_eq_ok (add_eq (by simpa [outcome] using fits.draws))
    exact bind_eq_ok (add_eq (by simpa [outcome, drawPoints] using fits.points)) rfl
  | winner w =>
    simp only [Standing.enter, outcome]
    by_cases own : w = c
    · subst own
      rw [if_pos rfl, if_pos rfl]
      apply bind_eq_ok (add_eq (by simpa [outcome] using fits.wins))
      exact bind_eq_ok (add_eq (by simpa [outcome, winPoints] using fits.points)) rfl
    · have lost : w = c.foe := Colony.ne_iff_eq_foe.1 own
      rw [if_neg own, if_neg own]
      exact bind_eq_ok (add_eq (by simpa [outcome, lost] using fits.losses)) rfl

theorem creditFirst_eq {name : String} {f : Standing → Except Hazard Standing}
    {g : Standing → Standing} {table : List Standing}
    (fits : ∀ s ∈ Formicary.creditFirst name g table, s.Fits)
    (fine : ∀ s, (g s).Fits → f s = .ok (g s)) :
    creditFirst name f table = .ok (Formicary.creditFirst name g table) := by
  induction table with
  | nil => rfl
  | cons s table ih =>
    rw [Formicary.creditFirst] at fits ⊢
    rw [creditFirst]
    split at fits
    · rename_i own
      rw [if_pos own, if_pos own]
      exact bind_eq_ok (fine s (fits _ List.mem_cons_self)) rfl
    · rename_i other
      rw [if_neg other, if_neg other]
      exact bind_eq_ok (ih fun s mem => fits s (List.mem_cons_of_mem _ mem)) rfl

end Guarded

theorem Standing.Fits.of_enterAll {s : Standing} {sides : List (Game × Colony)}
    (fits : (s.enterAll sides).Fits) : s.Fits := by
  rw [enterAll_eq] at fits
  exact {
    played := (Nat.le_add_right _ _).trans_lt fits.played
    wins := (Nat.le_add_right _ _).trans_lt fits.wins
    draws := (Nat.le_add_right _ _).trans_lt fits.draws
    losses := (Nat.le_add_right _ _).trans_lt fits.losses
    points := (Nat.le_add_right _ _).trans_lt fits.points
    food := (Nat.le_add_right _ _).trans_lt fits.food }

/-- Counters only grow. -/
theorem fits_of_creditSides {table : List Standing} {sides : List (Game × Colony)}
    (fits : ∀ s ∈ creditSides table sides, s.Fits) : ∀ s ∈ table, s.Fits := by
  induction table generalizing sides with
  | nil => nofun
  | cons s table ih =>
    rw [creditSides_cons, List.forall_mem_cons] at fits
    exact List.forall_mem_cons.2 ⟨fits.1.of_enterAll, ih fits.2⟩

namespace Guarded

theorem creditSides_eq {table : List Standing} {sides : List (Game × Colony)}
    (fits : ∀ s ∈ Formicary.creditSides table sides, s.Fits) :
    creditSides table sides = .ok (Formicary.creditSides table sides) := by
  induction sides generalizing table with
  | nil => rfl
  | cons x sides ih =>
    have first := creditFirst_eq (fits_of_creditSides fits) fun _ => enterSide_eq
    exact bind_eq_ok first (ih fits)

/-- If the counters of all accounts fit in the end, then none of them overflows on the way. -/
theorem standings_eq_of_fits {names : List String} {games : List Game}
    (fits : ∀ s ∈ accounts names (games.flatMap Game.sides), s.Fits) :
    standings names games = .ok (Formicary.standings names games) := by
  rw [← creditSides_eq_accounts] at fits
  rw [standings, foldlM_creditGame, Formicary.standings, foldl_creditGame]
  exact bind_eq_ok (creditSides_eq fits) rfl

end Guarded

/-! ### How much there is to count -/

theorem Standing.fits_fresh (name : String) : ({ name } : Standing).Fits := by
  constructor <;> exact Nat.pos_of_neZero _

/-- A name has at most two points for each game, and at most two sides of it. -/
theorem Standing.fits_ofSides {games : List Game} {name : String} (few : games.length < 2 ^ 31)
    (food : (ofSides name (games.flatMap Game.sides)).food < 2 ^ 64) :
    (ofSides name (games.flatMap Game.sides)).Fits := by
  have own (kind : Game × Colony → Bool) :
      ((games.flatMap Game.sides).filter fun x => Game.sideName x = name).countP kind ≤
        (games.flatMap Game.sides).countP kind :=
    List.filter_sublist.countP_le
  have won := own Game.won
  have drawn := own Game.drawn
  have lost := own Game.lost
  have sides := Game.length_eq_countP
    ((games.flatMap Game.sides).filter fun x => Game.sideName x = name)
  have total := Game.balance games
  have word : UInt32.size = 2 ^ 32 := rfl
  constructor
  case food => exact food
  all_goals
    simp only [ofSides]
    omega

section Words

variable {names : List String} {games : List Game} (few : games.length < 2 ^ 31)
  (food : ∀ name ∈ names, (Standing.ofSides name (games.flatMap Game.sides)).food < 2 ^ 64)

include few food

theorem fits_of_mem_accounts : ∀ s ∈ accounts names (games.flatMap Game.sides), s.Fits := by
  intro s mem
  obtain ⟨i, inside, rfl⟩ := List.mem_mapIdx.1 mem
  split
  · exact Standing.fits_fresh _
  · exact Standing.fits_ofSides few (food _ (List.getElem_mem inside))

/-- In words the standings are the same. -/
theorem Guarded.standings_eq :
    Guarded.standings names games = .ok (Formicary.standings names games) :=
  Guarded.standings_eq_of_fits (fits_of_mem_accounts few food)

end Words

end Formicary
