/-
Module: Formicary.Proofs.Viability
Purpose: Where reading a line fails: at the first word that no instruction goes on with, at a word
  too many, or at the end of words too few.
Main exports: ValidWords, Viable, Instruction.read_missing_iff, Instruction.read_extraWords_iff,
  Instruction.exists_refused_word, Instruction.faults_of_read
-/
import Formicary.Proofs.Readers

namespace Formicary

/-- The words of some line that is read as an instruction. -/
def ValidWords (ws : List String) : Prop :=
  ∃ line i, HasWords line ws ∧ Instruction.read line = .ok i

/-- Words that begin an instruction, whether or not they complete it. -/
def Viable (ws : List String) : Prop := ∃ more, ValidWords (ws ++ more)

namespace Instruction

variable {ws more : List String} {slot : Slot} {e : LineFault}

/-- Any words that the reader of instructions accepts are those of a line. -/
theorem validWords_iff : ValidWords ws ↔ ∃ i, form.after ws = .done i := by
  constructor
  · rintro ⟨line, i, has, isRead⟩
    rw [read_eq_run has, Form.run_eq_ok_iff] at isRead
    exact ⟨i, isRead⟩
  · rintro ⟨i, answer⟩
    have ran : form.run ws = .ok i := Form.run_eq_ok_iff.2 answer
    have glyphic := form_regular.glyphic_of_run ran
    have has := hasWords_codeWords (" ".intercalate ws).toList
    rw [codeWords_intercalate glyphic] at has
    exact ⟨_, i, has, (read_eq_run has).trans ran⟩

/-- Words after which another is due can be completed. -/
theorem exists_completion {read : String → Form Instruction}
    (due : form.after ws = .next slot read) :
    ∃ more, more ≠ [] ∧ ValidWords (ws ++ more) := by
  rcases form_regular.after due with regular | ⟨e, refused⟩
  · obtain ⟨more, i, ran⟩ := regular.exists_run
    refine ⟨more, ?_, validWords_iff.2 ⟨i, ?_⟩⟩
    · rintro rfl
      cases ran
    · rw [Form.after_append, due]
      exact Form.run_eq_ok_iff.1 ran
  · cases refused

theorem due_of_completion (some : more ≠ []) (valid : ValidWords (ws ++ more)) :
    ∃ slot read, form.after ws = .next slot read := by
  obtain ⟨i, answer⟩ := validWords_iff.1 valid
  obtain ⟨w, rest, rfl⟩ := List.exists_cons_of_ne_nil some
  rw [Form.after_append] at answer
  cases left : form.after ws with
  | done i' =>
    rw [left] at answer
    cases answer
  | refuse e =>
    rw [left] at answer
    cases answer
  | next slot read => exact ⟨slot, read, rfl⟩

theorem not_viable_of_refuse (refused : form.after ws = .refuse e) : ¬Viable ws := by
  rintro ⟨more, valid⟩
  obtain ⟨i, answer⟩ := validWords_iff.1 valid
  rw [Form.after_append, refused, Form.after_refuse] at answer
  cases answer

/-! ### The kinds of fault -/

section

variable {line : List Char} (has : HasWords line ws)

include has

/-- A word is missing where the words of the line can be completed. -/
theorem read_missing_iff :
    read line = .error (.missing slot) ↔
      slotAfter ws = some slot ∧ ∃ more, more ≠ [] ∧ ValidWords (ws ++ more) := by
  rw [read_eq_run has]
  constructor
  · intro failed
    cases form_regular.failure failed with
    | missing _ read due => exact ⟨form_asks.slot_eq due, exists_completion due⟩
    | refused front w back slot' read _ split due fault refusal => cases fault
  · rintro ⟨place, more, some, valid⟩
    obtain ⟨slot', read, due⟩ := due_of_completion some valid
    rw [form_asks.slot_eq due, Option.some.injEq] at place
    rw [Form.run_eq, due, place]
    rfl

/-- Words are too many where fewer of them are an instruction. -/
theorem read_extraWords_iff :
    read line = .error .extraWords ↔
      ∃ front back, ws = front ++ back ∧ back ≠ [] ∧ ValidWords front := by
  rw [read_eq_run has]
  constructor
  · intro failed
    cases form_regular.failure failed with
    | extraWords front w back i split answer =>
      exact ⟨front, w :: back, split, List.cons_ne_nil w back, validWords_iff.2 ⟨i, answer⟩⟩
    | refused front w back slot' read _ split due fault refusal => cases fault
  · rintro ⟨front, back, rfl, some, valid⟩
    obtain ⟨i, answer⟩ := validWords_iff.1 valid
    obtain ⟨w, rest, rfl⟩ := List.exists_cons_of_ne_nil some
    rw [Form.run_eq, Form.after_append, answer]
    rfl

/-- Any other fault is that of the first word with which no instruction goes on. -/
theorem exists_refused_word (failed : read line = .error e) (present : ∀ slot, e ≠ .missing slot)
    (needed : e ≠ .extraWords) :
    ∃ front w back slot, ws = front ++ w :: back ∧ Viable front ∧ ¬Viable (front ++ [w]) ∧
      slotAfter front = some slot ∧ slot.Refuses e := by
  rw [read_eq_run has] at failed
  cases form_regular.failure failed with
  | missing slot read due => exact absurd rfl (present slot)
  | extraWords front w back i split answer => exact absurd rfl needed
  | refused front w back slot read _ split due fault refusal =>
    obtain ⟨more, -, valid⟩ := exists_completion due
    exact ⟨front, w, back, slot, split, ⟨more, valid⟩, not_viable_of_refuse refusal,
      form_asks.slot_eq due, fault⟩

/-- How a line fails is decided by which of its words begin an instruction. It is empty if it has no
words; a word is missing if words begin an instruction and more are needed to complete it; words are
too many if fewer of them are an instruction; and any other fault is that of the first word with
which no instruction goes on, one of the faults of the place where this word stands. -/
theorem faults_of_read :
    (read line = .error (.missing .opcode) ↔ ws = []) ∧
      ((∃ slot, slot ≠ .opcode ∧ read line = .error (.missing slot)) ↔
        ws ≠ [] ∧ ∃ more, more ≠ [] ∧ ValidWords (ws ++ more)) ∧
      (read line = .error .extraWords ↔
        ∃ front back, ws = front ++ back ∧ back ≠ [] ∧ ValidWords front) ∧
      ∀ e, read line = .error e → (∀ slot, e ≠ .missing slot) → e ≠ .extraWords →
        ∃ front w back slot, ws = front ++ w :: back ∧ Viable front ∧ ¬Viable (front ++ [w]) ∧
          slotAfter front = some slot ∧ slot.Refuses e := by
  refine ⟨?empty, ?missing, read_extraWords_iff has, fun e => exists_refused_word has⟩
  case empty =>
    rw [read_missing_iff has, slotAfter_eq_opcode_iff]
    constructor
    · exact And.left
    · rintro rfl
      exact ⟨rfl, exists_completion rfl⟩
  case missing =>
    simp only [read_missing_iff has]
    constructor
    · rintro ⟨slot, operand, due, completion⟩
      refine ⟨?_, completion⟩
      rintro rfl
      exact operand (Option.some.inj (due.symm.trans rfl))
    · rintro ⟨nonempty, more, some, valid⟩
      obtain ⟨slot, read, left⟩ := due_of_completion some valid
      have due := form_asks.slot_eq left
      refine ⟨slot, ?_, due, more, some, valid⟩
      rintro rfl
      exact nonempty (slotAfter_eq_opcode_iff.1 due)

end

/-- There are six markers only, and so the word after the condition is refused. -/
theorem refused_in_marker_condition :
    ∃ front w back slot, ["sense", "ahead", "1", "0", "marker", "6", "7"] = front ++ w :: back ∧
      Viable front ∧ ¬Viable (front ++ [w]) ∧ slotAfter front = some slot ∧
      slot.Refuses (.unknown .marker) := by
  have has : HasWords "Sense AHEAD 1 0 marker 6 7".toList
      ["sense", "ahead", "1", "0", "marker", "6", "7"] :=
    ⟨_, Text.lowered_lowercase _, rfl⟩
  have failed : read "Sense AHEAD 1 0 marker 6 7".toList = .error (.unknown .marker) := by
    decide
  exact (faults_of_read has).2.2.2 _ failed nofun nofun

end Instruction

end Formicary
