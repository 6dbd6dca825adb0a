/-
Module: Formicary.Match
Purpose: A battle of a fixed number of rounds, played batch by batch, with its figures taken down.
Main exports: Match, Match.start, Match.runBatch, Match.playOut, Report, Match.report
-/
import Formicary.Battle.Snapshot
import Formicary.Battle.Turn
import Formicary.Fault

namespace Formicary

/-- A match: a battle, its settings, and the figures taken down so far. -/
structure Match where
  settings : Settings
  batchSize_pos : 0 < settings.batchSize
  battle : Battle
  history : Array Tally

namespace Match

/-- Prepare a match. The settings are checked before the map. -/
def start (w : World) (brains : PerColony Brain) (settings : Settings) : Except Fault Match :=
  match accepted : settings.complaint? with
  | some c => .error (.settings (.complaint c))
  | none =>
    match Battle.start w brains settings.seed with
    | .error fault => .error (.layout fault)
    | .ok battle =>
      .ok {
        settings
        batchSize_pos := (Settings.complaint?_eq_none.1 accepted).2.1
        battle
        history := #[battle.tally] }

/-- Rounds still to play. -/
def remaining (m : Match) : Nat := m.settings.rounds - m.battle.round

/-- Whether all rounds are played. -/
def isFinished (m : Match) : Bool := m.remaining == 0

/-- Rounds of the next batch. -/
def batch (m : Match) : Nat := min m.settings.batchSize m.remaining

/-- Whether the figures are taken down after a round: at regular intervals and after the last. -/
def isDue (s : Settings) (round : Nat) : Bool :=
  round % s.tallyInterval == 0 || round == s.rounds

/-- Play a round and take down the figures if they are due. -/
def playRound : Match → Match
  | { settings, batchSize_pos, battle, history } =>
    let battle := battle.playRound
    if isDue settings battle.round then
      { settings, batchSize_pos, history := history.push battle.tally, battle }
    else { settings, batchSize_pos, history, battle }

/-- Play a number of rounds. -/
def playRounds : Nat → Match → Match
  | 0, m => m
  | n + 1, m => playRounds n m.playRound

/-- Play the next batch, and tell how many rounds were played. -/
def runBatch (m : Match) : Match × Nat :=
  let batch := m.batch
  (playRounds batch m, batch)

/-- The match after its next batch. -/
def playBatch (m : Match) : Match := m.runBatch.1

/-! ### Batches -/

@[simp] theorem settings_playRound (m : Match) : m.playRound.settings = m.settings := by
  unfold playRound; dsimp only; split <;> rfl

@[simp] theorem battle_playRound (m : Match) : m.playRound.battle = m.battle.playRound := by
  unfold playRound; dsimp only; split <;> rfl

@[simp] theorem settings_playRounds (n : Nat) (m : Match) :
    (playRounds n m).settings = m.settings := by
  induction n generalizing m with
  | zero => rfl
  | succ n ih => simp [playRounds, ih]

@[simp] theorem battle_playRounds (n : Nat) (m : Match) :
    (playRounds n m).battle = m.battle.playRounds n := by
  induction n generalizing m with
  | zero => rfl
  | succ n ih => simp [playRounds, Battle.playRounds, ih]

/-- A batch takes its length off the rounds that remain. -/
theorem remaining_playBatch (m : Match) : m.playBatch.remaining = m.remaining - m.batch := by
  simp only [playBatch, runBatch, remaining, settings_playRounds, battle_playRounds,
    Battle.round_playRounds]
  omega

/-- A batch of an unfinished match has at least one round. -/
theorem remaining_playBatch_lt {m : Match} (h : m.remaining ≠ 0) :
    m.playBatch.remaining < m.remaining := by
  have hb := m.batchSize_pos
  rw [remaining_playBatch]
  simp only [batch]
  omega

/-- Play batches until all rounds are played, and collect what an observer notes after each. -/
def playOut {α : Type} (observe : α → Battle → α) (noted : α) (m : Match) : Match × α :=
  if _ : m.remaining = 0 then (m, noted)
  else
    let m := m.playBatch
    playOut observe (observe noted m.battle) m
termination_by m.remaining
decreasing_by exact remaining_playBatch_lt ‹_›

/-! ### The report -/

end Match

/-- The result of a match. -/
structure Report where
  seed : Nat
  rounds : Nat
  outcome : Outcome
  finalTally : Tally
  initialAnts : PerColony Nat
  survivingAnts : PerColony Nat
  history : List Tally
deriving DecidableEq, Repr

/-- Report on a match as it stands. -/
def Match.report (m : Match) : Report :=
  let tally := m.battle.tally
  { seed := m.battle.seed
    rounds := tally.round
    outcome := tally.outcome
    finalTally := tally
    initialAnts := m.battle.mustered
    survivingAnts := tally.living
    history := m.history.toList }

/-- A report as JSON. -/
def Report.toJson (r : Report) : Json :=
  .obj [
    ("seed", .nat r.seed),
    ("rounds", .nat r.rounds),
    ("outcome", r.outcome.toJson),
    ("final_tally", r.finalTally.toJson),
    ("initial_ants", r.initialAnts.toJson .nat),
    ("surviving_ants", r.survivingAnts.toJson .nat),
    ("history", .ofList Tally.toJson r.history)]

end Formicary
