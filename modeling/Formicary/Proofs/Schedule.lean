/-
Module: Formicary.Proofs.Schedule
Purpose: A tournament plays every game that it has to play exactly once and in order, and each of
  them is a plain battle.
Main exports: Game.play_eq_ok_iff, Tournament.hold_eq_ok_iff, pairings, Fixture.of,
  schedule_eq_flatMap, count_schedule, appointments, schedule_eq_map,
  Tournament.plays_full_schedule
-/
import Mathlib
import Formicary.Proofs.Batches
import Formicary.Proofs.Odds
import Formicary.Tournament

namespace Formicary

/-! ### Games that can be played -/

/-- A match can be prepared when its settings are in order and the map has a layout. -/
theorem Match.exists_start_iff {w : World} {brains : PerColony Brain} {s : Settings} :
    (∃ m, Match.start w brains s = .ok m) ↔
      s.complaint? = none ∧ ∃ b, Battle.start w brains s.seed = .ok b := by
  rw [Match.start]
  constructor
  · rintro ⟨m, prepared⟩
    split at prepared
    · cases prepared
    · rename_i accepted
      split at prepared
      · cases prepared
      · rename_i b started
        exact ⟨accepted, b, started⟩
  · rintro ⟨accepted, b, started⟩
    split
    · rename_i complaint
      rw [accepted] at complaint
      cases complaint
    · rw [started]
      exact ⟨_, rfl⟩

/-- The result of a game that ends with the battle `b`. -/
def Game.ofBattle (red black : String) (seed : Nat) (b : Battle) : Game :=
  { red, black, seed, outcome := b.outcome, food := b.ledger.hill }

/-- A game is the battle of its two brains after its rounds, and its seed must not be zero. -/
theorem Game.play_eq_ok_iff {w : World} {red black : Entry} {seed rounds : Nat} {g : Game} :
    Game.play w red black seed rounds = .ok g ↔
      seed ≠ 0 ∧ ∃ b, Battle.start w ⟨red.brain, black.brain⟩ seed = .ok b ∧
        g = .ofBattle red.name black.name seed (b.playRounds rounds) := by
  have settings : (Settings.mk seed rounds (max rounds 1) (max rounds 1)).complaint? = none ↔
      seed ≠ 0 := by
    simp [Settings.complaint?_eq_none, Nat.pos_iff_ne_zero]
  rw [Game.play]
  cases prepared : Match.start w ⟨red.brain, black.brain⟩
      { seed, rounds, batchSize := max rounds 1, tallyInterval := max rounds 1 } with
  | error fault =>
    have unable := mt Match.exists_start_iff.2 (by rw [prepared]; simp)
    constructor
    · intro played
      cases played
    · rintro ⟨positive, b, started, -⟩
      exact absurd ⟨settings.2 positive, b, started⟩ unable
  | ok m =>
    obtain ⟨accepted, b, started⟩ := Match.exists_start_iff.1 ⟨m, prepared⟩
    have report := Match.report_playOut prepared started (fun _ _ => ()) ()
    simp only [bind, Except.bind, pure, Except.pure, report, Except.ok.injEq]
    constructor
    · rintro rfl
      exact ⟨settings.1 accepted, b, started, rfl⟩
    · rintro ⟨-, b', started', rfl⟩
      obtain rfl : b = b' := Except.ok.inj (started.symm.trans started')
      rfl

namespace Tournament

/-- A tournament takes two entries and a seed, and is held when all its games can be played. -/
theorem hold_eq_ok_iff {w : World} {entries : List Entry} {seeds : List Nat} {rounds : Nat}
    {t : Tournament} :
    hold w entries seeds rounds = .ok t ↔
      2 ≤ entries.length ∧ seeds ≠ [] ∧
        List.Forall₂
          (fun f g => Game.play w (entries.get f.red) (entries.get f.black) f.seed rounds = .ok g)
          (schedule entries.length seeds) t.games ∧
        t.standings = Formicary.standings (entries.map Entry.name) t.games := by
  simp only [hold, check_eq_ok_iff, bind_eq_ok_iff, mapM_eq_ok_iff, Nat.not_lt,
    List.isEmpty_iff, pure, Except.pure, Except.ok.injEq]
  constructor
  · rintro ⟨enough, some, games, played, rfl⟩
    exact ⟨enough, some, played, rfl⟩
  · rintro ⟨enough, some, played, standings⟩
    exact ⟨enough, some, t.games, played, by rw [← standings]⟩

end Tournament

/-! ### Lists in lexicographic order -/

/-- Pairs that are listed by their first parts and then by their second are in order. -/
theorem pairwise_lt_pairs {α β : Type} [LinearOrder α] [LinearOrder β] {xs : List α}
    {ys : α → List β} (firsts : xs.Pairwise (· < ·)) (seconds : ∀ x, (ys x).Pairwise (· < ·)) :
    (xs.flatMap fun x => (ys x).map fun y => toLex (x, y)).Pairwise (· < ·) := by
  rw [List.pairwise_flatMap]
  constructor
  · intro x _
    rw [List.pairwise_map]
    refine (seconds x).imp fun less => ?_
    exact Prod.Lex.toLex_lt_toLex.2 (.inr ⟨rfl, less⟩)
  · refine firsts.imp fun less => ?_
    intro p memP q memQ
    obtain ⟨y, -, rfl⟩ := List.mem_map.1 memP
    obtain ⟨z, -, rfl⟩ := List.mem_map.1 memQ
    exact Prod.Lex.toLex_lt_toLex.2 (.inl less)

/-! ### Pairings -/

/-- A red entry and a black one, in the order in which they meet. -/
abbrev Pairing (n : Nat) := Fin n ×ₗ Fin n

/-- Every red entry in turn with every other. -/
def pairings (n : Nat) : List (Pairing n) :=
  (List.finRange n).flatMap fun red =>
    ((List.finRange n).filter (· ≠ red)).map fun black => toLex (red, black)

section Pairings

variable {n : Nat}

theorem mem_pairings {p : Pairing n} : p ∈ pairings n ↔ (ofLex p).1 ≠ (ofLex p).2 := by
  simp only [pairings, List.mem_flatMap, List.mem_map, List.mem_filter, List.mem_finRange,
    true_and, decide_eq_true_eq]
  constructor
  · rintro ⟨red, black, differ, rfl⟩
    exact differ.symm
  · intro differ
    exact ⟨_, _, differ.symm, rfl⟩

theorem pairwise_lt_pairings : (pairings n).Pairwise (· < ·) :=
  pairwise_lt_pairs (List.pairwise_lt_finRange n) fun _ => (List.pairwise_lt_finRange n).filter _

theorem length_finRange_filter_ne (i : Fin n) :
    ((List.finRange n).filter (· ≠ i)).length = n - 1 := by
  have self : (List.finRange n).countP (· = i) = 1 :=
    List.count_eq_one_of_mem (List.nodup_finRange n) (List.mem_finRange i)
  have all := List.length_eq_countP_add_countP (l := List.finRange n) (· = i)
  rw [List.length_finRange, self] at all
  rw [← List.countP_eq_length_filter]
  simp only [decide_not, decide_eq_true_eq] at all ⊢
  omega

theorem length_pairings : (pairings n).length = n * (n - 1) := by
  simp only [pairings, List.length_flatMap, List.length_map, length_finRange_filter_ne,
    List.map_const', List.sum_replicate, List.length_finRange, smul_eq_mul]

end Pairings

/-! ### The schedule -/

/-- The game of a pairing with a seed. -/
def Fixture.of {n : Nat} (seed : Nat) (p : Pairing n) : Fixture n :=
  { red := (ofLex p).1, black := (ofLex p).2, seed }

theorem Fixture.of_injective {n : Nat} (seed : Nat) :
    Function.Injective (Fixture.of (n := n) seed) := by
  intro p q same
  simp only [Fixture.of, Fixture.mk.injEq, and_true] at same
  exact Prod.ext same.1 same.2

/-- All pairings meet with each of the seeds in turn. -/
theorem schedule_eq_flatMap (n : Nat) (seeds : List Nat) :
    schedule n seeds = seeds.flatMap fun seed => (pairings n).map (Fixture.of seed) := by
  simp only [schedule, pairings, List.map_flatMap, List.map_map]
  rfl

section Schedule

variable (n : Nat) (seeds : List Nat)

theorem length_schedule : (schedule n seeds).length = seeds.length * (n * (n - 1)) := by
  simp only [schedule_eq_flatMap, List.length_flatMap, List.length_map, length_pairings,
    List.map_const', List.sum_replicate, smul_eq_mul]

/-- Nobody meets itself. -/
theorem red_ne_black_of_mem_schedule {n : Nat} {f : Fixture n} (mem : f ∈ schedule n seeds) :
    f.red ≠ f.black := by
  rw [schedule_eq_flatMap, List.mem_flatMap] at mem
  obtain ⟨seed, -, mem⟩ := mem
  obtain ⟨p, isPairing, rfl⟩ := List.mem_map.1 mem
  exact mem_pairings.1 isPairing

/-- A game takes place as often as its seed is listed. -/
theorem count_schedule {n : Nat} {i j : Fin n} (differ : i ≠ j) (s : Nat) :
    (schedule n seeds).count ⟨i, j, s⟩ = seeds.count s := by
  have once : (pairings n).count (toLex (i, j)) = 1 :=
    List.count_eq_one_of_mem pairwise_lt_pairings.nodup (mem_pairings.2 differ)
  have withSeed (seed : Nat) :
      ((pairings n).map (Fixture.of seed)).count ⟨i, j, s⟩ = if seed = s then 1 else 0 := by
    by_cases same : seed = s
    · subst same
      have own : (⟨i, j, seed⟩ : Fixture n) = .of seed (toLex (i, j)) := rfl
      rw [if_pos rfl, own, List.count_map_of_injective _ _ (Fixture.of_injective seed), once]
    · rw [if_neg same, List.count_eq_zero]
      intro mem
      obtain ⟨p, -, isGame⟩ := List.mem_map.1 mem
      exact same (congrArg Fixture.seed isGame)
  rw [schedule_eq_flatMap]
  induction seeds with
  | nil => rfl
  | cons seed seeds ih =>
    rw [List.flatMap_cons, List.count_append, withSeed, ih, List.count_cons, Nat.add_comm]
    simp only [beq_iff_eq]

/-- The position of a seed in the list of seeds, and a pairing. Appointments go by the seed first,
then by the red entry, and then by the black one. -/
abbrev Appointment (n m : Nat) := Fin m ×ₗ Pairing n

/-- All appointments in order. -/
def appointments (n m : Nat) : List (Appointment n m) :=
  (List.finRange m).flatMap fun position => (pairings n).map fun p => toLex (position, p)

/-- The game of an appointment. -/
def Appointment.fixture {n : Nat} (seeds : List Nat) (a : Appointment n seeds.length) : Fixture n :=
  .of (seeds.get (ofLex a).1) (ofLex a).2

theorem mem_appointments {n m : Nat} {a : Appointment n m} :
    a ∈ appointments n m ↔ (ofLex a).2 ∈ pairings n := by
  simp only [appointments, List.mem_flatMap, List.mem_map, List.mem_finRange, true_and]
  constructor
  · rintro ⟨position, p, mem, rfl⟩
    exact mem
  · intro mem
    exact ⟨_, _, mem, rfl⟩

theorem pairwise_lt_appointments (m : Nat) : (appointments n m).Pairwise (· < ·) :=
  pairwise_lt_pairs (List.pairwise_lt_finRange m) fun _ => pairwise_lt_pairings

theorem schedule_eq_map : schedule n seeds =
    (appointments n seeds.length).map (Appointment.fixture seeds) := by
  have listed : seeds = (List.finRange seeds.length).map seeds.get := by
    rw [← List.ofFn_eq_map, List.ofFn_get]
  rw [schedule_eq_flatMap, appointments, List.map_flatMap]
  conv_lhs => rw [listed, List.flatMap_map]
  simp only [List.map_map]
  rfl

end Schedule

theorem exists_of_map_eq_ok {ε α β : Type} {f : α → β} {x : Except ε α} {b : β}
    (image : x.map f = .ok b) : ∃ a, x = .ok a ∧ f a = b := by
  cases x with
  | error e => cases image
  | ok a => exact ⟨a, rfl, Except.ok.inj image⟩

namespace Tournament

/-- As often as a seed is listed, a tournament has a game with it of every red entry against every
other as black, and nobody plays itself. The games go by the position of the seed, then by the red
entry, then by the black one. Each has the names of its two entries, its seed, and the outcome and
the food of the battle of their brains after all rounds. -/
theorem plays_full_schedule {w : World} {entries : List Entry} {seeds : List Nat} {rounds : Nat}
    {t : Tournament} (held : hold w entries seeds rounds = .ok t) :
    t.games.length = seeds.length * (entries.length * (entries.length - 1)) ∧
      (∀ (i j : Fin entries.length) (s : Nat), i ≠ j →
        (schedule entries.length seeds).count ⟨i, j, s⟩ = seeds.count s) ∧
      (∀ f ∈ schedule entries.length seeds, f.red ≠ f.black) ∧
      (∃ order : List (Appointment entries.length seeds.length), order.Pairwise (· < ·) ∧
        (∀ position red black, toLex (position, toLex (red, black)) ∈ order ↔ red ≠ black) ∧
        schedule entries.length seeds = order.map (Appointment.fixture seeds)) ∧
      List.Forall₂
        (fun f g => ∃ b,
          Battle.start w ⟨(entries.get f.red).brain, (entries.get f.black).brain⟩ f.seed = .ok b ∧
            g = {
              red := (entries.get f.red).name
              black := (entries.get f.black).name
              seed := f.seed
              outcome := (b.playRounds rounds).outcome
              food := (b.playRounds rounds).ledger.hill })
        (schedule entries.length seeds) t.games := by
  obtain ⟨-, -, played, -⟩ := hold_eq_ok_iff.1 held
  refine ⟨?length, fun i j s differ => count_schedule seeds differ s,
    fun f => red_ne_black_of_mem_schedule seeds,
    ⟨appointments _ _, pairwise_lt_appointments _ _, ?complete, schedule_eq_map _ seeds⟩, ?games⟩
  case length => rw [← played.length_eq, length_schedule]
  case complete =>
    intro position red black
    rw [mem_appointments, mem_pairings]
    rfl
  case games =>
    refine played.imp fun f g isPlayed => ?_
    obtain ⟨-, b, started, isResult⟩ := Game.play_eq_ok_iff.1 isPlayed
    exact ⟨b, started, isResult⟩

open Battle (siege marcher idler)

/-- A seed that is listed twice has its two games twice. The marching brain loses as red, for the ant
that it kills leaves its remains on its own anthill. -/
theorem siege_scheduled :
    ∃ t, hold siege [⟨"marcher", marcher⟩, ⟨"idler", idler⟩] [1, 2, 1] 1 = .ok t ∧
      t.games.map (fun g => (g.red, g.seed, g.outcome)) =
        [("marcher", 1, .winner .black), ("idler", 1, .draw), ("marcher", 2, .winner .black),
          ("idler", 2, .draw), ("marcher", 1, .winner .black), ("idler", 1, .draw)] ∧
      t.games.length = 6 ∧ (schedule 2 [1, 2, 1]).count ⟨0, 1, 1⟩ = 2 := by
  obtain ⟨t, held, games⟩ :
      ∃ t, hold siege [⟨"marcher", marcher⟩, ⟨"idler", idler⟩] [1, 2, 1] 1 = .ok t ∧
        t.games.map (fun g => (g.red, g.seed, g.outcome)) =
          [("marcher", 1, .winner .black), ("idler", 1, .draw), ("marcher", 2, .winner .black),
            ("idler", 2, .draw), ("marcher", 1, .winner .black), ("idler", 1, .draw)] :=
    exists_of_map_eq_ok
      (f := fun t : Tournament => t.games.map fun g => (g.red, g.seed, g.outcome)) (by cbv)
  obtain ⟨length, count, -⟩ := plays_full_schedule held
  exact ⟨t, held, games, length, count 0 1 1 (by decide)⟩

end Tournament

end Formicary
