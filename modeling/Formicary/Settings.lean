/-
Module: Formicary.Settings
Purpose: The settings of a match and when they make sense.
Main exports: Settings, Complaint, Settings.complaint?, Settings.toJson
-/
import Formicary.Json

namespace Formicary

/-- The settings of a match. -/
structure Settings where
  /-- Seed of the dice. -/
  seed : Nat := 12345
  /-- Rounds to play. -/
  rounds : Nat := 100000
  /-- Rounds played at a stretch. The result is the same for every choice. -/
  batchSize : Nat := 1000
  /-- The figures are taken down whenever this many rounds have passed. -/
  tallyInterval : Nat := 100
deriving DecidableEq, Repr

/-- Why a match or a tournament cannot be held as it is asked for. -/
inductive Complaint where
  | zeroSeed
  | zeroBatchSize
  | zeroTallyInterval
  | tooFewEntries
  | noSeeds
deriving DecidableEq, Repr

/-- The message for a complaint. -/
def Complaint.message : Complaint → String
  | .zeroSeed => "seed must be a positive integer"
  | .zeroBatchSize => "batch_size must be positive"
  | .zeroTallyInterval => "tally_interval must be positive"
  | .tooFewEntries => "a tournament needs at least two brains"
  | .noSeeds => "a tournament needs at least one seed"

namespace Settings

/-- The settings of a match when nothing else is said. -/
def default : Settings := {}

/-- The first complaint about the settings of a match. -/
def complaint? (s : Settings) : Option Complaint :=
  if s.seed = 0 then some .zeroSeed
  else if s.batchSize = 0 then some .zeroBatchSize
  else if s.tallyInterval = 0 then some .zeroTallyInterval
  else none

/-- No complaint means that all three settings are positive. -/
theorem complaint?_eq_none {s : Settings} :
    s.complaint? = none ↔ 0 < s.seed ∧ 0 < s.batchSize ∧ 0 < s.tallyInterval := by
  by_cases hs : s.seed = 0
  · simp [complaint?, hs]
  by_cases hb : s.batchSize = 0
  · simp [complaint?, hs, hb]
  by_cases ht : s.tallyInterval = 0
  · simp [complaint?, hs, hb, ht]
  · simp [complaint?, hs, hb, ht, Nat.pos_iff_ne_zero]

/-- Settings as JSON. -/
def toJson (s : Settings) : Json :=
  .obj [
    ("seed", .nat s.seed),
    ("rounds", .nat s.rounds),
    ("batch_size", .nat s.batchSize),
    ("tally_interval", .nat s.tallyInterval)]

end Settings

end Formicary
