/-
Module: Formicary.Proofs.Trace
Purpose: A trace shows the dumps of a battle that is simply played on, so that traces can be cut and
  continued.
Main exports: Text.ofLines, Battle.blockAfter, Battle.traceRounds_eq, Battle.trace_eq,
  Battle.trace_add, Battle.traces_show_run
-/
import Formicary.Battle.Dump
import Formicary.Proofs.Course

namespace Formicary

/-- Lines as a text, each of them ended by a line feed. -/
def Text.ofLines (lines : List String) : String := String.join (lines.map (· ++ "\n"))

theorem Text.ofLines_append (front back : List String) :
    ofLines (front ++ back) = ofLines front ++ ofLines back := by
  rw [ofLines, List.map_append, String.join_append]
  rfl

namespace Battle

theorem playRounds_playRounds (n m : Nat) (b : Battle) :
    playRounds m (playRounds n b) = playRounds (n + m) b := by
  induction m with
  | zero => rfl
  | succ m ih => rw [playRounds_succ, ih, ← Nat.add_assoc, playRounds_succ]

/-! ### Blocks -/

/-- The lines at the head of a trace. -/
def traceHead (b : Battle) : List String := [s!"random seed: {b.seed}", ""]

/-- The block of a trace for the battle after `k` more rounds. -/
def blockAfter (b : Battle) (k : Nat) : List String :=
  s!"After round {b.round + k}..." :: (playRounds k b).dumpLines ++ [""]

theorem traceBlock_eq (b : Battle) : b.traceBlock = b.blockAfter 0 := rfl

theorem blockAfter_playRounds (b : Battle) (n k : Nat) :
    (playRounds n b).blockAfter k = b.blockAfter (n + k) := by
  rw [blockAfter, blockAfter, playRounds_playRounds, round_playRounds, Nat.add_assoc]

/-- The blocks that are collected while the battle is played are those of the battle after each
round. -/
theorem traceRounds_eq (n : Nat) (b : Battle) (blocks : List (List String)) :
    b.traceRounds n blocks =
      (blocks.reverse ++ (List.range n).map fun k => b.blockAfter (k + 1), playRounds n b) := by
  induction n generalizing b blocks with
  | zero => simp [traceRounds, playRounds]
  | succ n ih =>
    have later (k : Nat) : b.playRound.blockAfter k = b.blockAfter (k + 1) := by
      rw [Nat.add_comm]
      exact blockAfter_playRounds b 1 k
    rw [traceRounds, ih, traceBlock_eq]
    simp only [later, List.reverse_cons, List.append_assoc, List.range_succ_eq_map, List.map_cons,
      List.map_map, List.singleton_append]
    rfl

/-- A trace has a block for the present moment and one for each round that is played. -/
theorem trace_eq (b : Battle) (n : Nat) :
    b.trace n =
      (Text.ofLines (b.traceHead ++ (List.range (n + 1)).flatMap b.blockAfter),
        playRounds n b) := by
  rw [trace, traceLines, traceRounds_eq, traceBlock_eq, List.range_succ_eq_map, List.flatMap_cons,
    List.flatMap_map]
  rfl

/-! ### Longer traces -/

/-- The blocks of the `m` rounds after the next `n`. -/
def laterBlocks (b : Battle) (n m : Nat) : String :=
  Text.ofLines ((List.range m).flatMap fun k => b.blockAfter (n + 1 + k))

theorem trace_add (b : Battle) (n m : Nat) :
    (b.trace (n + m)).1 = (b.trace n).1 ++ b.laterBlocks n m := by
  rw [trace_eq, trace_eq, Nat.add_right_comm, List.range_add, List.flatMap_append,
    List.flatMap_map, ← List.append_assoc, Text.ofLines_append]
  rfl

theorem trace_playRounds (b : Battle) (n m : Nat) :
    ((playRounds n b).trace m).1 =
      Text.ofLines ((playRounds n b).traceHead ++ b.blockAfter n) ++ b.laterBlocks n m := by
  rw [trace_eq, List.range_succ_eq_map, List.flatMap_cons, List.flatMap_map, ← List.append_assoc,
    Text.ofLines_append, blockAfter_playRounds, laterBlocks]
  simp only [blockAfter_playRounds, Nat.succ_eq_add_one, Nat.add_assoc, Nat.add_comm 1]
  rfl

/-- The trace of `n` rounds is the line with the seed, an empty line, and then for the present moment
and after each of the `n` rounds a line with the number of the round, the dump of the battle played
so far, and an empty line. The battle is left `n` rounds on. The trace of more rounds begins with
it, and goes on with the trace of the battle that is left, without the two lines at its head and
without its first block. -/
theorem traces_show_run (b : Battle) (n : Nat) :
    b.trace n =
        (Text.ofLines ([s!"random seed: {b.seed}", ""] ++ (List.range (n + 1)).flatMap fun k =>
          s!"After round {b.round + k}..." :: (playRounds k b).dumpLines ++ [""]),
        playRounds n b) ∧
      (∀ m, n ≤ m → ∃ rest, (b.trace m).1 = (b.trace n).1 ++ rest) ∧
      ∀ m, ∃ rest, (b.trace (n + m)).1 = (b.trace n).1 ++ rest ∧
        ((playRounds n b).trace m).1 =
          Text.ofLines ([s!"random seed: {b.seed}", ""] ++
            s!"After round {b.round + n}..." :: (playRounds n b).dumpLines ++ [""]) ++ rest := by
  refine ⟨trace_eq b n, ?longer, ?continued⟩
  case longer =>
    intro m le
    obtain ⟨more, rfl⟩ := Nat.exists_eq_add_of_le le
    exact ⟨_, trace_add b n more⟩
  case continued =>
    intro m
    have seed : (playRounds n b).seed = b.seed := (lasting_moment b n 0).seed
    refine ⟨_, trace_add b n m, ?_⟩
    rw [trace_playRounds, traceHead, seed]
    rfl

/-- An anthill cell and a clear cell next to it. -/
def strip : World where
  width := 2
  height := 1
  sites := [{ place := ⟨0, 0⟩, terrain := .hill .red }, { place := ⟨1, 0⟩, terrain := .clear }]

/-- A brain that steps ahead and then turns to the left for good. -/
def leaver : Brain where
  instructions := #[.move 1 1, .turn .left 1]
  size_pos := by decide
  successors_lt := by decide

/-- The ant leaves its cell in the first round, and the trace of three rounds begins with that of
one. -/
theorem trace_of_leaver :
    ∃ b, start strip ⟨leaver, leaver⟩ 42 = .ok b ∧
      (b.trace 1).1 = Text.ofLines [
        "random seed: 42",
        "",
        "After round 0...",
        "cell (0, 0): red hill; red ant of id 0, dir 0, food 0, state 0, resting 0",
        "cell (1, 0): ",
        "",
        "After round 1...",
        "cell (0, 0): red hill; ",
        "cell (1, 0): red ant of id 0, dir 0, food 0, state 1, resting 14",
        ""] ∧
      1 ≤ 3 ∧ ∃ rest, (b.trace 3).1 = (b.trace 1).1 ++ rest := by
  exact ⟨_, rfl, by decide +kernel, by decide, (traces_show_run _ 1).2.1 3 (by decide)⟩

end Battle

end Formicary
