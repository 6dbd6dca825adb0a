/-
Module: Formicary.Battle.Tally
Purpose: The figures of a battle after some round, and who is ahead.
Main exports: Outcome, Tally, Tally.outcome, Battle.tally, Battle.outcome
-/
import Formicary.Battle
import Formicary.Json

namespace Formicary

/-- How a battle ends. -/
inductive Outcome where
  | winner (c : Colony)
  | draw
deriving DecidableEq, Repr

namespace Outcome

/-- An outcome in words. -/
def text : Outcome → String
  | .winner c => s!"{c.name} wins"
  | .draw => "draw"

/-- An outcome as JSON. -/
def toJson : Outcome → Json
  | .winner c => .obj [("winner", .str c.name)]
  | .draw => .str "draw"

/-- The outcome with the two colonies exchanged. -/
def swap : Outcome → Outcome
  | .winner c => .winner c.foe
  | .draw => .draw

end Outcome

/-- The figures of a battle after some round. -/
structure Tally where
  round : Nat
  hill : PerColony Nat
  carried : PerColony Nat
  unclaimed : Nat
  living : PerColony Nat
deriving DecidableEq, Repr

/-- A pair as JSON. -/
def PerColony.toJson {α : Type} (f : α → Json) (p : PerColony α) : Json :=
  .obj [("red", f p.red), ("black", f p.black)]

namespace Tally

/-- All food. -/
def total (t : Tally) : Nat :=
  t.hill.red + t.hill.black + t.carried.red + t.carried.black + t.unclaimed

/-- The colony with more food on its anthill wins. -/
def outcome (t : Tally) : Outcome :=
  if t.hill.black < t.hill.red then .winner .red
  else if t.hill.red < t.hill.black then .winner .black
  else .draw

/-- A tally as JSON. -/
def toJson (t : Tally) : Json :=
  .obj [
    ("round", .nat t.round),
    ("hill", t.hill.toJson .nat),
    ("carried", t.carried.toJson .nat),
    ("unclaimed", .nat t.unclaimed),
    ("living", t.living.toJson .nat)]

end Tally

namespace Battle

/-- The figures of a battle. -/
def tally (b : Battle) : Tally :=
  { round := b.round, hill := b.ledger.hill, carried := b.ledger.carried,
    unclaimed := b.ledger.unclaimed, living := .ofFn b.living }

/-- Who is ahead. -/
def outcome (b : Battle) : Outcome := b.tally.outcome

end Battle

end Formicary
