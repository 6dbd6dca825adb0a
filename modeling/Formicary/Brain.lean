/-
Module: Formicary.Brain
Purpose: Brains, which never lead outside themselves, and how they are read and written.
Main exports: Brain, Brain.ofInstructions, Brain.read, Brain.text
-/
import Formicary.Brain.Line

namespace Formicary

open Text

/-- A brain: at least one instruction, and none that leads beyond the last. An ant that starts in
the first state thus always has an instruction to follow. -/
structure Brain where
  instructions : Array Instruction
  size_pos : 0 < instructions.size
  successors_lt : ∀ i ∈ instructions, ∀ s ∈ i.successors, s < instructions.size

namespace Brain

instance : DecidableEq Brain := fun a b =>
  if h : a.instructions = b.instructions then
    isTrue (by cases a; cases b; cases h; rfl)
  else isFalse fun e => h (e ▸ rfl)

/-- Number of instructions. -/
def size (b : Brain) : Nat := b.instructions.size

/-- The instruction of a state. -/
def get? (b : Brain) (s : State) : Option Instruction := b.instructions[s]?

/-- The written form of a brain: one instruction a line, each line ended by a line feed. -/
def text (b : Brain) : String :=
  String.join (b.instructions.toList.map fun i => i.text ++ "\n")

/-! ### Assembly -/

/-- The first operand of an instruction that is no state of a brain with `size` instructions. -/
def strayState? (size : Nat) (i : Instruction) : Option State :=
  i.successors.find? fun s => decide (size ≤ s)

/-- The first instruction that leads out of the list, with its position and the state it leads
to. -/
def stray? (is : List Instruction) : Option (Nat × State) :=
  let size := is.length
  is.zipIdx.findSome? fun (i, n) => (strayState? size i).map fun s => (n, s)

theorem strayState?_eq_none {size : Nat} {i : Instruction} :
    strayState? size i = none ↔ ∀ s ∈ i.successors, s < size := by
  simp [strayState?]

theorem stray?_eq_none {is : List Instruction} :
    stray? is = none ↔ ∀ i ∈ is, ∀ s ∈ i.successors, s < is.length := by
  simp only [stray?, List.findSome?_eq_none_iff, Option.map_eq_none_iff, strayState?_eq_none]
  constructor
  · intro h i hi
    obtain ⟨n, hn, rfl⟩ := List.getElem_of_mem hi
    exact h (is[n], n) (List.mk_mem_zipIdx_iff_getElem?.2 (by simp [hn]))
  · intro h x hx
    exact h x.1 (List.mem_of_getElem? (List.mem_zipIdx_iff_getElem?.1 hx))

/-- Make a brain of instructions, each with the text that a fault would show. -/
def assemble (lines : List (String × Instruction)) : Except BrainFault Brain :=
  let is := lines.map Prod.snd
  if nonempty : is = [] then .error .empty
  else match closed : stray? is with
    | some (n, s) =>
      .error (.line (n + 1) ((lines.map Prod.fst)[n]?.getD "") (.stateOutOfRange s is.length))
    | none =>
      .ok {
        instructions := is.toArray
        size_pos := by simpa using List.length_pos_iff.2 nonempty
        successors_lt := by simpa using stray?_eq_none.1 closed }

/-- Make a brain of instructions. A fault shows the instruction in its written form. -/
def ofInstructions (is : List Instruction) : Except BrainFault Brain :=
  assemble (is.map fun i => (i.text, i))

/-- The lines of a brain's text. Blanks at its end do not count, but a blank line in it does. -/
def sourceLines (source : String) : List (List Char) :=
  (trimRight source.toList).splitOn '\n'

/-- Read one line of a brain, counted from zero. -/
def readLine (number : Nat) (line : List Char) : Except BrainFault (String × Instruction) :=
  match Instruction.read line with
  | .ok i => .ok (String.ofList line, i)
  | .error fault => .error (.line (number + 1) (String.ofList line) fault)

/-- Read a brain. The first line that holds no instruction is reported before any state that is out
of range. -/
def read (source : String) : Except BrainFault Brain := do
  let lines ← (sourceLines source).zipIdx.mapM fun (line, n) => readLine n line
  assemble lines

end Brain

end Formicary
