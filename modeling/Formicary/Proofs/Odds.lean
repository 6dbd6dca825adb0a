/-
Module: Formicary.Proofs.Odds
Purpose: The flips of a brain that was read from a text have odds of at least one.
Main exports: bind_eq_ok_iff, bind_eq_error_iff, check_eq_ok_iff, check_eq_error_iff,
  mapM_eq_ok_iff, mapM_eq_error_iff, exists_forall₂_iff, Form.Yields, Instruction.Fair,
  Brain.Fair, Instruction.fair_of_read, Brain.fair_of_read
-/
import Mathlib.Data.List.Forall2
import Formicary.Brain

namespace Formicary

/-! ### Readers one after the other -/

/-- A reader succeeds exactly if its first part and then the rest of it do. -/
theorem bind_eq_ok_iff {ε α β : Type} {x : Except ε α} {f : α → Except ε β} {b : β} :
    x >>= f = .ok b ↔ ∃ a, x = .ok a ∧ f a = .ok b := by
  cases x <;> simp [bind, Except.bind]

/-- A reader fails exactly if its first part does, or else the rest of it. -/
theorem bind_eq_error_iff {ε α β : Type} {x : Except ε α} {f : α → Except ε β} {e : ε} :
    x >>= f = .error e ↔ x = .error e ∨ ∃ a, x = .ok a ∧ f a = .error e := by
  cases x <;> simp [bind, Except.bind]

/-- A reader goes on after a check exactly if nothing was found amiss. -/
theorem check_eq_ok_iff {ε α β : Type} {amiss : Prop} [Decidable amiss] {e : ε}
    {f : α → Except ε β} {rest : Except ε β} {b : β} :
    (if amiss then Except.error e >>= f else rest) = .ok b ↔ ¬amiss ∧ rest = .ok b := by
  split <;> simp [*, bind, Except.bind]

theorem check_eq_error_iff {ε α β : Type} {amiss : Prop} [Decidable amiss] {e e' : ε}
    {f : α → Except ε β} {rest : Except ε β} :
    (if amiss then Except.error e >>= f else rest) = .error e' ↔
      amiss ∧ e = e' ∨ ¬amiss ∧ rest = .error e' := by
  split <;> simp [*, bind, Except.bind]

/-- A list is read if each element is, in its order. -/
theorem mapM_eq_ok_iff {ε α β : Type} {f : α → Except ε β} {xs : List α} {ys : List β} :
    xs.mapM f = .ok ys ↔ List.Forall₂ (fun x y => f x = .ok y) xs ys := by
  induction xs generalizing ys with
  | nil => cases ys <;> simp [pure, Except.pure]
  | cons x xs ih =>
    simp only [List.mapM_cons, List.forall₂_cons_left_iff, bind_eq_ok_iff, ih, pure, Except.pure,
      Except.ok.injEq, exists_and_left, @eq_comm (List β) ys]

/-- What comes first to fail is what fails the whole. -/
theorem mapM_eq_error_iff {ε α β : Type} {f : α → Except ε β} {xs : List α} {e : ε} :
    xs.mapM f = .error e ↔ ∃ front x back, xs = front ++ x :: back ∧
      (∀ y ∈ front, ∃ z, f y = .ok z) ∧ f x = .error e := by
  constructor
  · intro failed
    induction xs with
    | nil => simp [pure, Except.pure] at failed
    | cons x xs ih =>
      rw [List.mapM_cons, bind_eq_error_iff] at failed
      rcases failed with first | ⟨z, fine, later⟩
      · exact ⟨[], x, xs, rfl, by simp, first⟩
      · have rest : xs.mapM f = .error e := by
          simpa [bind_eq_error_iff, pure, Except.pure] using later
        obtain ⟨front, y, back, rfl, before, fails⟩ := ih rest
        exact ⟨x :: front, y, back, rfl, List.forall_mem_cons.2 ⟨⟨z, fine⟩, before⟩, fails⟩
  · rintro ⟨front, x, back, rfl, before, fails⟩
    induction front with
    | nil => simp [List.mapM_cons, fails, bind, Except.bind]
    | cons y front ih =>
      rw [List.forall_mem_cons] at before
      obtain ⟨⟨z, first⟩, rest⟩ := before
      rw [List.cons_append, List.mapM_cons, first, ih rest]
      rfl

/-- A list stands in a relation to some other if each of its elements does. -/
theorem exists_forall₂_iff {α β : Type} {R : α → β → Prop} {xs : List α} :
    (∃ ys, List.Forall₂ R xs ys) ↔ ∀ x ∈ xs, ∃ y, R x y := by
  induction xs with
  | nil => simp
  | cons x xs ih =>
    simp only [List.forall₂_cons_left_iff, List.forall_mem_cons, ← ih]
    constructor
    · rintro ⟨_, y, ys, first, others, -⟩
      exact ⟨⟨y, first⟩, ys, others⟩
    · rintro ⟨⟨y, first⟩, ys, others⟩
      exact ⟨_, y, ys, first, others, rfl⟩

/-! ### Answers of a reader -/

namespace Form

variable {α β : Type} {P Q : α → Prop} {f : Form α}

/-- Whatever the words, the answer of a reader has a property. -/
def Yields (P : α → Prop) : Form α → Prop
  | .done a => P a
  | .refuse _ => True
  | .next _ read => ∀ w, (read w).Yields P

@[simp] theorem yields_pure {a : α} : (pure a : Form α).Yields P ↔ P a := Iff.rfl

@[simp] theorem yields_bind {g : α → Form β} {R : β → Prop} :
    (f >>= g).Yields R ↔ f.Yields fun a => (g a).Yields R := by
  induction f with
  | done a => rfl
  | refuse fault => rfl
  | next slot read ih => exact forall_congr' ih

theorem Yields.mono (yields : f.Yields P) (weaker : ∀ a, P a → Q a) : f.Yields Q := by
  induction f with
  | done a => exact weaker a yields
  | refuse fault => trivial
  | next slot read ih => exact fun w => ih w (yields w)

theorem yields_of_forall (always : ∀ a, P a) : f.Yields P := by
  induction f with
  | done a => exact always a
  | refuse fault => trivial
  | next slot read ih => exact ih

theorem yields_word {slot : Slot} {read : String → Except LineFault α}
    (each : ∀ w a, read w = .ok a → P a) : (word slot read).Yields P := by
  intro w
  dsimp only
  split
  · rename_i a answer
    exact each w a answer
  · trivial

theorem yields_choice {slot : Slot} {table : List (String × Form α)}
    (each : ∀ entry ∈ table, entry.2.Yields P) : (choice slot table).Yields P := by
  intro w
  dsimp only
  cases found : table.lookup w with
  | none => trivial
  | some g =>
    obtain ⟨front, back, split, -⟩ := List.lookup_eq_some_iff.1 found
    exact each (w, g) (by rw [split]; simp)

theorem Yields.of_run {ws : List String} {a : α} (yields : f.Yields P) (ran : f.run ws = .ok a) :
    P a := by
  induction f generalizing ws with
  | done a' =>
    cases ws with
    | nil =>
      cases ran
      exact yields
    | cons w ws => cases ran
  | refuse fault => cases ran
  | next slot read ih =>
    cases ws with
    | nil => cases ran
    | cons w ws => exact ih w (yields w) ran

end Form

/-! ### Odds -/

/-- A number that was read is not too small. -/
theorem Quantity.least_le_of_read {q : Quantity} {w : String} {n : Nat} (read : q.read w = .ok n) :
    q.least ≤ n := by
  rw [Quantity.read] at read
  split at read
  · cases read
  · rename_i numeral _
    split_ifs at read with fractional small large
    cases read
    have size := Int.self_le_toNat numeral.whole
    omega

/-- A flip of an instruction has odds of at least one. -/
def Instruction.Fair : Instruction → Prop
  | .flip odds _ _ => 0 < odds
  | _ => True

/-- All flips of a brain have odds of at least one. -/
def Brain.Fair (b : Brain) : Prop := ∀ i ∈ b.instructions, i.Fair

theorem Quantity.odds_form_yields : Quantity.odds.form.Yields (0 < ·) := by
  apply Form.yields_word
  intro w n read
  have least : (1 : Int) ≤ n := Quantity.least_le_of_read read
  omega

theorem Instruction.form_yields_fair : Instruction.form.Yields Instruction.Fair := by
  apply Form.yields_choice
  simp only [Instruction.opcodes, List.forall_mem_cons, Form.yields_bind, Form.yields_pure]
  refine ⟨?sense, ?mark, ?unmark, ?pickUp, ?drop, ?turn, ?move, ?flip, nofun⟩
  case flip =>
    apply Quantity.odds_form_yields.mono
    intro odds pos
    apply Form.yields_of_forall
    intro ifZero
    apply Form.yields_of_forall
    intro ifOther
    exact pos
  all_goals simp [Form.yields_of_forall, Instruction.Fair]

theorem Instruction.fair_of_read {line : List Char} {i : Instruction}
    (read : Instruction.read line = .ok i) : i.Fair :=
  Instruction.form_yields_fair.of_run read

namespace Brain

theorem fair_of_readLine {number : Nat} {line : List Char} {entry : String × Instruction}
    (read : readLine number line = .ok entry) : entry.2.Fair := by
  rw [readLine] at read
  split at read
  · rename_i i readHere
    cases read
    exact Instruction.fair_of_read readHere
  · cases read

theorem instructions_of_assemble {lines : List (String × Instruction)} {b : Brain}
    (assembled : assemble lines = .ok b) : b.instructions = (lines.map Prod.snd).toArray := by
  simp only [assemble] at assembled
  split at assembled
  · cases assembled
  · split at assembled
    · cases assembled
    · cases assembled
      rfl

/-- A brain that was read from a text never rolls a die without faces. -/
theorem fair_of_read {source : String} {b : Brain} (read : Brain.read source = .ok b) :
    b.Fair := by
  simp only [Brain.read, bind, Except.bind] at read
  split at read
  · cases read
  · rename_i lines readLines
    have each := mapM_eq_ok_iff.1 readLines
    have fairly : List.Forall₂ (fun entry _ => entry.2.Fair ∧ True) lines _ :=
      (each.imp fun _ _ readHere => ⟨fair_of_readLine readHere, trivial⟩).flip
    have fair : ∀ entry ∈ lines, entry.2.Fair := ((List.forall₂_and_left _ _).1 fairly).1
    intro i mem
    rw [instructions_of_assemble read, List.mem_toArray] at mem
    obtain ⟨entry, isLine, rfl⟩ := List.mem_map.1 mem
    exact fair entry isLine

end Brain

end Formicary
