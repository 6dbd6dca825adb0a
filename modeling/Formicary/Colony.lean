/-
Module: Formicary.Colony
Purpose: The two colonies and values kept once per colony.
Main exports: Colony, Colony.foe, PerColony, PerColony.get, PerColony.modify
-/

namespace Formicary

/-- The two colonies at war. -/
inductive Colony where
  | red
  | black
deriving DecidableEq, Repr, Inhabited

namespace Colony

/-- Both colonies in the order in which every listing names them. -/
def all : List Colony := [.red, .black]

/-- Place of a colony in a listing of both. -/
def index : Colony → Nat
  | .red => 0
  | .black => 1

/-- The other colony. -/
def foe : Colony → Colony
  | .red => .black
  | .black => .red

/-- Name of a colony, as dumps and reports write it. -/
def name : Colony → String
  | .red => "red"
  | .black => "black"

@[simp] theorem foe_foe (c : Colony) : c.foe.foe = c := by cases c <;> rfl

@[simp] theorem foe_ne (c : Colony) : c.foe ≠ c := by cases c <;> decide

/-- There are only two colonies: whoever is not `c` is its foe. -/
theorem ne_iff_eq_foe {c d : Colony} : d ≠ c ↔ d = c.foe := by
  cases c <;> cases d <;> decide

end Colony

/-- One value for each colony. -/
structure PerColony (α : Type) where
  red : α
  black : α
deriving DecidableEq, Repr, Inhabited

namespace PerColony

variable {α β : Type}

/-- The value of one colony. -/
def get (p : PerColony α) : Colony → α
  | .red => p.red
  | .black => p.black

/-- The pair whose values are those of a function. -/
def ofFn (f : Colony → α) : PerColony α :=
  { red := f .red, black := f .black }

/-- The same value for both colonies. -/
def both (a : α) : PerColony α :=
  { red := a, black := a }

/-- Replace the value of one colony by its image under `f`. -/
def modify (p : PerColony α) (c : Colony) (f : α → α) : PerColony α :=
  match c with
  | .red => { p with red := f p.red }
  | .black => { p with black := f p.black }

/-- Apply a function to both values. -/
def map (f : α → β) (p : PerColony α) : PerColony β :=
  { red := f p.red, black := f p.black }

/-- Exchange the two values. -/
def swap (p : PerColony α) : PerColony α :=
  { red := p.black, black := p.red }

@[simp] theorem get_ofFn (f : Colony → α) (c : Colony) : (ofFn f).get c = f c := by
  cases c <;> rfl

@[simp] theorem get_both (a : α) (c : Colony) : (both a).get c = a := by
  cases c <;> rfl

@[simp] theorem get_map (f : α → β) (p : PerColony α) (c : Colony) :
    (p.map f).get c = f (p.get c) := by
  cases c <;> rfl

@[simp] theorem get_swap (p : PerColony α) (c : Colony) : p.swap.get c = p.get c.foe := by
  cases c <;> rfl

/-- Changing one colony's value leaves the other's alone. -/
theorem get_modify (p : PerColony α) (c d : Colony) (f : α → α) :
    (p.modify c f).get d = if c = d then f (p.get d) else p.get d := by
  cases c <;> cases d <;> rfl

/-- A pair is known by its two values. -/
theorem ext_get {p q : PerColony α} (h : ∀ c, p.get c = q.get c) : p = q := by
  cases p; cases q
  have hr := h .red
  have hb := h .black
  simp only [get] at hr hb
  rw [hr, hb]

end PerColony

end Formicary
