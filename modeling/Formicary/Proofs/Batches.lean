/-
Module: Formicary.Proofs.Batches
Purpose: A match played in batches is its battle played at a stretch.
Main exports: Battle.record, Match.playBatches, Match.Follows, Match.Follows.playBatches,
  Match.Follows.playOut, Match.batches_play_battle
-/
import Mathlib.Algebra.Order.Floor.Div
import Formicary.Match
import Formicary.Proofs.Course
import Formicary.Proofs.Start

namespace Formicary

/-- One portion less leaves one part less. -/
theorem sub_ceilDiv_self (a : Nat) {b : Nat} (pos : 0 < b) : (a - b) ⌈/⌉ b = a ⌈/⌉ b - 1 := by
  apply eq_of_forall_ge_iff
  intro c
  rw [ceilDiv_le_iff_le_mul pos, Nat.sub_le_iff_le_add, ← Nat.mul_succ,
    ← ceilDiv_le_iff_le_mul pos, Nat.sub_le_iff_le_add]

theorem Match.isDue_iff {s : Settings} {r : Nat} :
    isDue s r ↔ s.tallyInterval ∣ r ∨ r = s.rounds := by
  rw [isDue, Bool.or_eq_true, beq_iff_eq, beq_iff_eq, Nat.dvd_iff_mod_eq_zero]

/-- The figures of the first `r` rounds of a battle that its match takes down: those of the start,
of every round that ends an interval, and of the last. -/
def Battle.record (b : Battle) (s : Settings) (r : Nat) : List Tally :=
  ((List.range (r + 1)).filter fun k => k = 0 ∨ s.tallyInterval ∣ k ∨ k = s.rounds).map fun k =>
    (b.playRounds k).tally

/-- The report on a battle after all rounds that the settings ask for. -/
def Battle.report (b : Battle) (s : Settings) : Report :=
  let last := b.playRounds s.rounds
  { seed := s.seed
    rounds := s.rounds
    outcome := last.outcome
    finalTally := last.tally
    initialAnts := b.mustered
    survivingAnts := .ofFn last.living
    history := b.record s s.rounds }

theorem Battle.record_succ (b : Battle) (s : Settings) (r : Nat) :
    b.record s (r + 1) = b.record s r ++
      if Match.isDue s (r + 1) then [(b.playRounds (r + 1)).tally] else [] := by
  rw [record, List.range_succ, List.filter_append, List.map_append, ← record]
  by_cases due : Match.isDue s (r + 1)
  · simp [due, Match.isDue_iff.1 due]
  · simp [due, mt Match.isDue_iff.2 due]

namespace Match

@[simp] theorem settings_runBatch (m : Match) : m.runBatch.1.settings = m.settings :=
  settings_playRounds m.batch m

/-- Play a number of batches one after the other, and keep what each of them tells of its rounds. -/
def playBatches : Nat → Match → Match × List Nat
  | 0, m => (m, [])
  | n + 1, m =>
    let (next, played) := m.runBatch
    let (last, lengths) := playBatches n next
    (last, played :: lengths)

/-- A match has played `r` rounds of the battle `b`. -/
structure Follows (m : Match) (b : Battle) (r : Nat) : Prop where
  battle : m.battle = b.playRounds r
  history : m.history.toList = b.record m.settings r
  within : r ≤ m.settings.rounds

namespace Follows

variable {m : Match} {b : Battle} {r : Nat} (follows : m.Follows b r) (fresh : b.round = 0)

include follows fresh

theorem remaining : m.remaining = m.settings.rounds - r := by
  rw [Match.remaining, follows.battle, Battle.round_playRounds, fresh, Nat.zero_add]

/-! ### Rounds and batches -/

theorem playRound (unfinished : r < m.settings.rounds) : m.playRound.Follows b (r + 1) := by
  have battle : m.battle.playRound = b.playRounds (r + 1) := by
    rw [follows.battle, Battle.playRounds_succ]
  have round : m.battle.playRound.round = r + 1 := by
    rw [battle, Battle.round_playRounds, fresh, Nat.zero_add]
  constructor
  · rw [battle_playRound, battle]
  · rw [settings_playRound, Battle.record_succ, ← follows.history, ← battle]
    simp only [Match.playRound, round]
    split <;> simp
  · rw [settings_playRound]
    exact unfinished

theorem playRounds {n : Nat} (enough : r + n ≤ m.settings.rounds) :
    (playRounds n m).Follows b (r + n) := by
  induction n generalizing m r with
  | zero => exact follows
  | succ n ih =>
    rw [Match.playRounds, Nat.add_comm n, ← Nat.add_assoc]
    apply ih (follows.playRound fresh (by omega))
    rw [settings_playRound]
    omega

/-- A batch plays the rounds that it tells of, and ends not later than the match. -/
theorem runBatch :
    m.runBatch.1.Follows b (min (r + m.settings.batchSize) m.settings.rounds) ∧
      r + m.runBatch.2 = min (r + m.settings.batchSize) m.settings.rounds := by
  have length : r + m.batch = min (r + m.settings.batchSize) m.settings.rounds := by
    have within := follows.within
    rw [batch, follows.remaining fresh]
    omega
  refine ⟨?_, length⟩
  rw [← length]
  apply follows.playRounds fresh
  omega

/-- Batches follow the battle, and their lengths add up to the rounds played. -/
theorem playBatches (n : Nat) :
    (playBatches n m).1.settings = m.settings ∧
      (playBatches n m).1.Follows b (min (r + n * m.settings.batchSize) m.settings.rounds) ∧
      r + (playBatches n m).2.sum = min (r + n * m.settings.batchSize) m.settings.rounds := by
  induction n generalizing m r with
  | zero =>
    have start : min (r + 0 * m.settings.batchSize) m.settings.rounds = r := by
      have within := follows.within
      omega
    rw [start]
    exact ⟨rfl, follows, rfl⟩
  | succ n ih =>
    obtain ⟨next, length⟩ := follows.runBatch fresh
    obtain ⟨settings, rest, lengths⟩ := ih next
    rw [settings_runBatch] at settings rest lengths
    have stop : min (min (r + m.settings.batchSize) m.settings.rounds +
          n * m.settings.batchSize) m.settings.rounds =
        min (r + (n + 1) * m.settings.batchSize) m.settings.rounds := by
      rw [Nat.succ_mul]
      omega
    rw [stop] at rest lengths
    refine ⟨settings, rest, ?_⟩
    rw [← lengths, ← length, Match.playBatches, List.sum_cons, Nat.add_assoc]

/-! ### The whole match -/

/-- To play a match out is to play as many batches as cover the rest of its rounds, and to show an
observer the battle after each. -/
theorem playOut {α : Type} (observe : α → Battle → α) (noted : α) {n : Nat}
    (left : (m.settings.rounds - r) ⌈/⌉ m.settings.batchSize = n) :
    m.playOut observe noted =
      ((Match.playBatches n m).1,
        ((List.range n).map fun i =>
          b.playRounds (min (r + (i + 1) * m.settings.batchSize) m.settings.rounds)).foldl
          observe noted) := by
  induction n generalizing m r noted with
  | zero =>
    have finished : m.remaining = 0 := by
      have none := (ceilDiv_le_iff_le_mul m.batchSize_pos).1 (Nat.le_of_eq left)
      rw [follows.remaining fresh]
      omega
    rw [Match.playOut, dif_pos finished]
    rfl
  | succ n ih =>
    have unfinished : m.remaining ≠ 0 := by
      intro finished
      rw [← follows.remaining fresh, finished, zero_ceilDiv] at left
      cases left
    have shorter : m.settings.rounds - min (r + m.settings.batchSize) m.settings.rounds =
        m.settings.rounds - r - m.settings.batchSize := by
      omega
    have later (i : Nat) :
        min (min (r + m.settings.batchSize) m.settings.rounds + (i + 1) * m.settings.batchSize)
            m.settings.rounds =
          min (r + (i + 1 + 1) * m.settings.batchSize) m.settings.rounds := by
      rw [Nat.succ_mul (i + 1)]
      omega
    have next := (follows.runBatch fresh).1
    have rest := ih next (observe noted m.runBatch.1.battle)
    rw [settings_runBatch, shorter, sub_ceilDiv_self _ m.batchSize_pos, left] at rest
    rw [Match.playOut, dif_neg unfinished, playBatch, rest rfl, next.battle]
    simp only [later, List.range_succ_eq_map, List.map_cons, List.map_map, List.foldl_cons,
      Nat.zero_add, Nat.one_mul]
    rfl

end Follows

/-- A match that was just prepared has played no round of its battle. -/
theorem follows_of_start {w : World} {brains : PerColony Brain} {settings : Settings} {m : Match}
    (accepted : start w brains settings = .ok m) :
    ∃ b, Battle.start w brains settings.seed = .ok b ∧ m.settings = settings ∧ m.Follows b 0 := by
  rw [start] at accepted
  split at accepted
  · cases accepted
  · split at accepted
    · cases accepted
    · rename_i b started
      cases accepted
      refine ⟨b, started, rfl, rfl, ?_, Nat.zero_le _⟩
      simp [Battle.record, Battle.playRounds]

/-- The report on a match that has played all rounds. -/
theorem Follows.report_eq {m : Match} {b : Battle} {s : Settings} (follows : m.Follows b s.rounds)
    (settings : m.settings = s) (fresh : b.round = 0) (seed : b.seed = s.seed) :
    m.report = b.report s := by
  have lasting : b.Lasting (b.playRounds s.rounds) := Battle.lasting_moment b s.rounds 0
  have round : (b.playRounds s.rounds).tally.round = s.rounds := by
    rw [Battle.tally, Battle.round_playRounds, fresh, Nat.zero_add]
  rw [report, follows.battle, follows.history, round, lasting.seed, lasting.mustered, seed,
    settings]
  rfl

/-- A match that is played out has played all rounds. -/
theorem report_playOut {w : World} {brains : PerColony Brain} {settings : Settings} {m : Match}
    {b : Battle} (accepted : start w brains settings = .ok m)
    (started : Battle.start w brains settings.seed = .ok b) {α : Type} (observe : α → Battle → α)
    (noted : α) : (m.playOut observe noted).1.report = b.report settings := by
  obtain ⟨b', started', rfl, follows⟩ := follows_of_start accepted
  obtain rfl : b = b' := Except.ok.inj (started.symm.trans started')
  have fresh := (Battle.begun_of_start started).round
  obtain ⟨settings, rest, -⟩ :=
    follows.playBatches fresh (m.settings.rounds ⌈/⌉ m.settings.batchSize)
  have all : m.settings.rounds ≤
      m.settings.rounds ⌈/⌉ m.settings.batchSize * m.settings.batchSize := by
    rw [Nat.mul_comm, ← ceilDiv_le_iff_le_mul m.batchSize_pos]
  rw [Nat.zero_add, Nat.min_eq_right all] at rest
  rw [follows.playOut fresh observe noted rfl]
  exact rest.report_eq settings fresh (Battle.seed_of_start started)

/-- Batches of any size lead through the battle that a match begins with, and not beyond its last
round. Their lengths add up to the rounds played, and the figures taken down are those of the start,
of the ends of intervals and of the last round. The report is on the battle after all rounds, so two
matches that differ only in the size of their batches end in the same report. -/
theorem batches_play_battle {w : World} {brains : PerColony Brain} {settings : Settings}
    {m : Match} (accepted : start w brains settings = .ok m) :
    ∃ b, Battle.start w brains settings.seed = .ok b ∧
      (∀ j, let r := min (j * settings.batchSize) settings.rounds
        (playBatches j m).1.battle = b.playRounds r ∧
          (playBatches j m).2.sum = r ∧
          (playBatches j m).1.history.toList = b.record settings r) ∧
      (∀ {α : Type} (observe : α → Battle → α) (noted : α),
        let n := settings.rounds ⌈/⌉ settings.batchSize
        let ends := (List.range n).map fun i => min ((i + 1) * settings.batchSize) settings.rounds
        m.playOut observe noted =
            ((playBatches n m).1, (ends.map fun r => b.playRounds r).foldl observe noted) ∧
          (m.playOut observe noted).1.report = b.report settings) ∧
      ∀ {size : Nat} {m' : Match}, start w brains { settings with batchSize := size } = .ok m' →
        ∀ {α α' : Type} (observe : α → Battle → α) (noted : α) (observe' : α' → Battle → α')
          (noted' : α'),
          (m'.playOut observe' noted').1.report = (m.playOut observe noted).1.report := by
  obtain ⟨b, started, rfl, follows⟩ := follows_of_start accepted
  have fresh := (Battle.begun_of_start started).round
  refine ⟨b, started, ?batches, ?whole, ?sizes⟩
  case batches =>
    intro j
    obtain ⟨settings, rest, lengths⟩ := follows.playBatches fresh j
    simp only [Nat.zero_add] at rest lengths
    have history := rest.history
    rw [settings] at history
    exact ⟨rest.battle, lengths, history⟩
  case whole =>
    intro α observe noted
    refine ⟨?_, report_playOut accepted started observe noted⟩
    rw [follows.playOut fresh observe noted rfl]
    simp [List.map_map, Function.comp_def]
  case sizes =>
    intro size m' accepted' α α' observe noted observe' noted'
    rw [report_playOut accepted started, report_playOut accepted' started]
    rfl

/-- Five rounds in batches of two are three batches, the last of which is cut short. With intervals
of three rounds the figures after the third and after the last round are taken down. -/
theorem siege_in_batches :
    ∃ (m : Match) (b : Battle),
      start Battle.siege ⟨Battle.marcher, Battle.idler⟩ ⟨1, 5, 2, 3⟩ = .ok m ∧
      (m.playOut (fun ends b => ends ++ [b.round]) []).2 = [2, 4, 5] ∧
      (playBatches 7 m).2.sum = 5 ∧
      (m.playOut (fun _ _ => ()) ()).1.report.history =
        [b.tally, (b.playRounds 3).tally, (b.playRounds 5).tally] := by
  obtain ⟨m, accepted⟩ :
      ∃ m, start Battle.siege ⟨Battle.marcher, Battle.idler⟩ ⟨1, 5, 2, 3⟩ = .ok m := ⟨_, rfl⟩
  obtain ⟨b, started, batches, whole, -⟩ := batches_play_battle accepted
  have fresh := (Battle.begun_of_start started).round
  refine ⟨m, b, accepted, ?ends, (batches 7).2.1, ?history⟩
  case ends =>
    rw [(whole _ _).1]
    have ends : (List.range (5 ⌈/⌉ 2)).map (fun i => min ((i + 1) * 2) 5) = [2, 4, 5] := by
      decide
    simp [ends, fresh]
  case history =>
    rw [(whole _ _).2]
    rfl

end Match

end Formicary
