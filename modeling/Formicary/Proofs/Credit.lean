/-
Module: Formicary.Proofs.Credit
Purpose: Who is credited with the games of a tournament.
Main exports: Fixture.ending?, Entry.bouts, Entry.account, Entry.length_bouts,
  Tournament.credited_iff_names_distinct
-/
import Mathlib
import Formicary.Proofs.Accounts
import Formicary.Proofs.Schedule

namespace Formicary

/-! ### The games of an entry -/

/-- The colony that entry `i` leads in a game. -/
def Fixture.colony? {n : Nat} (f : Fixture n) (i : Fin n) : Option Colony :=
  if f.red = i then some .red else if f.black = i then some .black else none

/-- How a game ends: the battle of the brains of the two entries after its last round. There is none
if the map has no layout. -/
def Fixture.ending? (w : World) (entries : List Entry) (rounds : Nat)
    (f : Fixture entries.length) : Option Battle :=
  (Battle.start w ⟨(entries.get f.red).brain, (entries.get f.black).brain⟩ f.seed).toOption.map
    (Battle.playRounds rounds)

namespace Entry

/-- The games of a tournament in which entry `i` takes part, with their ends and the colony it
leads. -/
def bouts (w : World) (entries : List Entry) (seeds : List Nat) (rounds : Nat)
    (i : Fin entries.length) : List (Fixture entries.length × Battle × Colony) :=
  (schedule entries.length seeds).filterMap fun f => do
    let b ← f.ending? w entries rounds
    let c ← f.colony? i
    return (f, b, c)

/-- What entry `i` earns in its games, whatever the names of the entries. -/
def account (w : World) (entries : List Entry) (seeds : List Nat) (rounds : Nat)
    (i : Fin entries.length) : Standing :=
  let own := bouts w entries seeds rounds i
  let wins := own.countP fun (_, b, c) => b.outcome = .winner c
  let draws := own.countP fun (_, b, _) => b.outcome = .draw
  { name := (entries.get i).name
    played := own.length
    wins
    draws
    losses := own.countP fun (_, b, c) => b.outcome = .winner c.foe
    points := 2 * wins + draws
    food := (own.map fun (_, b, c) => b.ledger.hill.get c).sum }

end Entry

/-! ### Counting the schedule -/

section Schedule

variable {n : Nat} (seeds : List Nat) (i : Fin n)

/-- An entry is in as many pairings as there are others, with either colony. -/
theorem countP_colony?_pairings (seed : Nat) :
    ((pairings n).map (Fixture.of seed)).countP (fun f => (f.colony? i).isSome) =
      2 * (n - 1) := by
  have asRed (red : Fin n) :
      (((List.finRange n).filter (· ≠ red)).map fun black => toLex (red, black)).countP
        (fun p => ((Fixture.of seed p).colony? i).isSome) = if red = i then n - 1 else 1 := by
    rw [List.countP_map]
    by_cases own : red = i
    · subst own
      simp [Fixture.of, Fixture.colony?, Function.comp_def, List.countP_true,
        ← length_finRange_filter_ne red]
    · have once : (List.finRange n).countP (· = i) = 1 :=
        List.count_eq_one_of_mem (List.nodup_finRange n) (List.mem_finRange i)
      rw [if_neg own, ← once, List.countP_filter]
      congr 1
      funext black
      by_cases other : black = i <;> simp [Fixture.of, Fixture.colony?, own, other, Ne.symm own]
  have sum : ∑ red : Fin n, (if red = i then n - 1 else 1) = 2 * (n - 1) := by
    rw [← Finset.add_sum_erase _ _ (Finset.mem_univ i), if_pos rfl,
      Finset.sum_congr rfl fun red mem => if_neg (Finset.ne_of_mem_erase mem)]
    simp
    omega
  rw [List.countP_map, Function.comp_def, pairings, List.countP_flatMap, Function.comp_def, ← sum,
    Fin.sum_univ_def]
  exact congrArg List.sum (List.map_congr_left fun red _ => asRed red)

theorem countP_colony?_schedule :
    (schedule n seeds).countP (fun f => (f.colony? i).isSome) = 2 * (n - 1) * seeds.length := by
  rw [schedule_eq_flatMap, List.countP_flatMap, Function.comp_def]
  simp only [countP_colony?_pairings i, List.map_const', List.sum_replicate, smul_eq_mul]
  exact Nat.mul_comm _ _

end Schedule

/-! ### From games to accounts -/

theorem eq_filterMap_of_forall₂ {α β : Type} {f : α → Option β} {xs : List α} {ys : List β}
    (each : List.Forall₂ (fun x y => f x = some y) xs ys) :
    (∀ x ∈ xs, (f x).isSome) ∧ ys = xs.filterMap f := by
  induction each with
  | nil => exact ⟨by simp, rfl⟩
  | cons first _ ih =>
    rw [List.forall_mem_cons, List.filterMap_cons_some first, ← ih.2]
    exact ⟨⟨Option.isSome_of_eq_some first, ih.1⟩, rfl⟩

/-- The result of a game of the schedule that ends with the battle `b`. -/
def Fixture.result (entries : List Entry) (f : Fixture entries.length) (b : Battle) : Game :=
  .ofBattle (entries.get f.red).name (entries.get f.black).name f.seed b

/-- The side of a game that goes to a name is that of the entry who bears it. -/
theorem Game.filter_sides {n : Nat} {f : Fixture n} {i : Fin n} {g : Game} {name : String}
    (differ : f.red ≠ f.black) (red : g.name .red = name ↔ f.red = i)
    (black : g.name .black = name ↔ f.black = i) :
    g.sides.filter (fun x => Game.sideName x = name) =
      (f.colony? i).toList.map fun c => (g, c) := by
  by_cases isRed : f.red = i
  · have notBlack : f.black ≠ i := fun same => differ (isRed.trans same.symm)
    simp [Game.sides, Game.sideName, Colony.all, Fixture.colony?, red, black, isRed, notBlack]
  · by_cases isBlack : f.black = i <;>
      simp [Game.sides, Game.sideName, Colony.all, Fixture.colony?, red, black, isRed, isBlack]

section Held

variable {w : World} {entries : List Entry} {seeds : List Nat} {rounds : Nat} {t : Tournament}

/-- All games of a tournament that is held come to an end, and these ends are its games. -/
theorem Tournament.games_of_hold (held : Tournament.hold w entries seeds rounds = .ok t) :
    (∀ f ∈ schedule entries.length seeds, (f.ending? w entries rounds).isSome) ∧
      t.games = (schedule entries.length seeds).filterMap fun f =>
        (f.ending? w entries rounds).map (f.result entries) := by
  obtain ⟨-, -, played, -⟩ := Tournament.hold_eq_ok_iff.1 held
  have ended := played.imp (S := fun f g =>
      (f.ending? w entries rounds).map (f.result entries) = some g) (by
    intro f g isPlayed
    obtain ⟨-, b, started, rfl⟩ := Game.play_eq_ok_iff.1 isPlayed
    rw [Fixture.ending?, started]
    rfl)
  obtain ⟨all, games⟩ := eq_filterMap_of_forall₂ ended
  simp only [Option.isSome_map] at all
  exact ⟨all, games⟩

/-- An entry has as many games as there are others, with either colony and with every seed. -/
theorem Entry.length_bouts (held : Tournament.hold w entries seeds rounds = .ok t)
    (i : Fin entries.length) :
    (Entry.bouts w entries seeds rounds i).length = 2 * (entries.length - 1) * seeds.length := by
  rw [Entry.bouts, List.length_filterMap_eq_countP, ← countP_colony?_schedule seeds i]
  apply List.countP_congr
  intro f mem
  obtain ⟨b, ended⟩ := Option.isSome_iff_exists.1 ((Tournament.games_of_hold held).1 f mem)
  cases f.colony? i <;> simp [ended]

/-- If no two entries share a name, the sides that are entered under the name of an entry are those
of its own games. -/
theorem filter_sides_eq (held : Tournament.hold w entries seeds rounds = .ok t)
    (nodup : (entries.map Entry.name).Nodup) (i : Fin entries.length) :
    (t.games.flatMap Game.sides).filter (fun x => Game.sideName x = (entries.get i).name) =
      (Entry.bouts w entries seeds rounds i).map fun (f, b, c) => (f.result entries b, c) := by
  have sameName (j : Fin entries.length) : (entries.get j).name = (entries.get i).name ↔ j = i := by
    constructor
    · intro same
      have atSame : (entries.map Entry.name)[j.val]? = (entries.map Entry.name)[i.val]? := by
        simpa using same
      exact Fin.ext ((List.getElem?_inj (by simp) nodup).1 atSame)
    · rintro rfl
      rfl
  rw [(Tournament.games_of_hold held).2, Entry.bouts, List.map_filterMap,
    List.filterMap_eq_flatMap_toList, List.filterMap_eq_flatMap_toList, List.flatMap_assoc,
    List.filter_flatMap]
  apply List.flatMap_congr
  intro f mem
  cases f.ending? w entries rounds with
  | none => rfl
  | some b =>
    have sides := Game.filter_sides (g := f.result entries b)
      (red_ne_black_of_mem_schedule seeds mem) (sameName f.red) (sameName f.black)
    simp only [Option.map_some, Option.toList_some, List.flatMap_singleton, sides]
    cases f.colony? i <;> rfl

/-- Without namesakes, what is entered under the name of an entry is what it earned. -/
theorem enterAll_eq_account (held : Tournament.hold w entries seeds rounds = .ok t)
    (nodup : (entries.map Entry.name).Nodup) (i : Fin entries.length) :
    ({ name := (entries.get i).name } : Standing).enterAll
        ((t.games.flatMap Game.sides).filter fun x => Game.sideName x = (entries.get i).name) =
      Entry.account w entries seeds rounds i := by
  rw [filter_sides_eq held nodup, Standing.enterAll_eq, Entry.account]
  simp only [Nat.zero_add, List.length_map, List.countP_map, List.map_map]
  rfl

namespace Tournament

/-- The standings of a tournament are the accounts of its entries, in some order, exactly if no two
entries share a name: of namesakes the first is credited with the games of all. Every entry has
played all others, with either colony and with every seed. -/
theorem credited_iff_names_distinct (held : hold w entries seeds rounds = .ok t) :
    (∀ f ∈ schedule entries.length seeds, (f.ending? w entries rounds).isSome) ∧
      (∀ i, (Entry.account w entries seeds rounds i).played =
        2 * (entries.length - 1) * seeds.length) ∧
      (t.standings.Perm
          ((List.finRange entries.length).map (Entry.account w entries seeds rounds)) ↔
        (entries.map Entry.name).Nodup) := by
  obtain ⟨enough, some, -, standings⟩ := hold_eq_ok_iff.1 held
  have table : t.standings.Perm
      (creditSides ((entries.map Entry.name).map fun name => { name })
        (t.games.flatMap Game.sides)) := by
    rw [standings, Formicary.standings, foldl_creditGame]
    exact List.mergeSort_perm _ _
  have names : ((entries.map Entry.name).map fun name => ({ name } : Standing)).map Standing.name =
      entries.map Entry.name := by
    rw [List.map_map, List.map_map]
    rfl
  refine ⟨(games_of_hold held).1, Entry.length_bouts held, ?_, ?_⟩
  · intro credited
    by_contra twice
    rw [← names] at twice
    -- somebody's account was never touched, but nobody has played no game
    obtain ⟨s, isFresh, stays⟩ := exists_untouched twice (t.games.flatMap Game.sides)
    obtain ⟨i, -, rfl⟩ := List.mem_map.1 ((table.symm.trans credited).subset stays)
    obtain ⟨name, -, fresh⟩ := List.mem_map.1 isFresh
    have idle := congrArg Standing.played fresh
    have busy : (Entry.account w entries seeds rounds i).played = _ := Entry.length_bouts held i
    have pos : 0 < 2 * (entries.length - 1) * seeds.length :=
      Nat.mul_pos (by omega) (List.length_pos_iff.2 some)
    rw [busy] at idle
    exact pos.ne idle
  · intro nodup
    have list : (entries.map Entry.name) =
        (List.finRange entries.length).map fun i => (entries.get i).name := by
      conv_lhs => rw [← List.map_getElem_finRange entries, List.map_map]
      rfl
    rw [creditSides_of_nodup (names.symm ▸ nodup), list, List.map_map, List.map_map] at table
    refine table.trans (.of_eq (List.map_congr_left fun i _ => ?_))
    exact enterAll_eq_account held nodup i

end Tournament

end Held

namespace Tournament

open Battle (siege marcher idler)

/-- The marching brain loses the siege as red, and draws as black. -/
theorem siege_credited :
    ∃ t, hold siege [⟨"marcher", marcher⟩, ⟨"idler", idler⟩] [1] 1 = .ok t ∧
      t.standings.map Standing.points = [3, 1] ∧
      t.standings.Perm ((List.finRange 2).map
        (Entry.account siege [⟨"marcher", marcher⟩, ⟨"idler", idler⟩] [1] 1)) := by
  obtain ⟨t, held, points⟩ :
      ∃ t, hold siege [⟨"marcher", marcher⟩, ⟨"idler", idler⟩] [1] 1 = .ok t ∧
        t.standings.map Standing.points = [3, 1] :=
    exists_of_map_eq_ok (f := fun t : Tournament => t.standings.map Standing.points) (by cbv)
  exact ⟨t, held, points, (credited_iff_names_distinct held).2.2.2 (by decide)⟩

/-- The same two brains under one name: one account has the games of both, and the other none, so
that neither is that of an entry. -/
theorem namesakes_not_credited :
    ∃ t, hold siege [⟨"ant", marcher⟩, ⟨"ant", idler⟩] [1] 1 = .ok t ∧
      t.standings.map Standing.played = [4, 0] ∧
      ¬t.standings.Perm ((List.finRange 2).map
        (Entry.account siege [⟨"ant", marcher⟩, ⟨"ant", idler⟩] [1] 1)) := by
  obtain ⟨t, held, played⟩ :
      ∃ t, hold siege [⟨"ant", marcher⟩, ⟨"ant", idler⟩] [1] 1 = .ok t ∧
        t.standings.map Standing.played = [4, 0] :=
    exists_of_map_eq_ok (f := fun t : Tournament => t.standings.map Standing.played) (by cbv)
  refine ⟨t, held, played, fun credited => ?_⟩
  have idle : 0 ∈ t.standings.map Standing.played := by simp [played]
  obtain ⟨s, isRow, none⟩ := List.mem_map.1 idle
  obtain ⟨i, -, rfl⟩ := List.mem_map.1 (credited.subset isRow)
  have busy : (Entry.account _ _ _ _ i).played = _ := Entry.length_bouts held i
  rw [none] at busy
  cases busy

end Tournament

end Formicary
