/-
Module: Formicary.Proofs.Source
Purpose: Instructions that are written down and read again make the same brain, or the same fault,
  as the instructions themselves.
Main exports: sourceOf, Instruction.derives_words, Brain.sourceLines_sourceOf,
  Brain.read_of_readings, Brain.read_of_unread, Brain.read_sourceOf, Brain.read_sourceOf_of_unfair,
  Brain.stray?_eq_some_iff, Brain.reads_what_it_writes
-/
import Formicary.Proofs.Odds
import Formicary.Proofs.Grammar

namespace Formicary

open Text

/-- Instructions written down, each on a line of its own that is ended by a line feed. -/
def sourceOf (is : List Instruction) : String :=
  String.join (is.map fun i => i.text ++ "\n")

/-! ### Instructions as text -/

theorem Condition.derives_words (c : Condition) : Derives c.words c := by
  cases c
  case marker m => exact .marker (Marker.named_iff.2 rfl)
  all_goals constructor

theorem Condition.glyphic_words (c : Condition) : ∀ w ∈ c.words, Glyphic w :=
  form_regular.glyphic_of_run (run_eq_ok_iff.2 c.derives_words)

namespace Instruction

/-- The odds of a flip fit an unsigned word of 32 bits. -/
def Bounded : Instruction → Prop
  | .flip odds _ _ => odds < 2 ^ 32
  | _ => True

/-- The numbers of an instruction fit the words of a machine. -/
structure Fits (i : Instruction) : Prop where
  states : ∀ s ∈ i.successors, s ≤ 2 ^ 63 - 1
  bounded : i.Bounded

/-- The written form of an instruction is one that the grammar derives for it. -/
theorem derives_words {i : Instruction} (fits : i.Fits) (fair : i.Fair) : Derives i.words i := by
  have state : ∀ s ∈ i.successors, Numeral .state (Nat.repr s) s := by
    intro (s : Nat) leads
    apply numeral_repr
    have small : s ≤ 2 ^ 63 - 1 := fits.states s leads
    rw [Quantity.Allows]
    omega
  cases i with
  | sense gaze ifTrue ifFalse condition =>
    exact .sense (Gaze.named_iff.2 rfl) (state ifTrue (.head _)) (state ifFalse (.tail _ (.head _)))
      condition.derives_words
  | mark marker next => exact .mark (Marker.named_iff.2 rfl) (state next (.head _))
  | unmark marker next => exact .unmark (Marker.named_iff.2 rfl) (state next (.head _))
  | pickUp ifTaken ifNot =>
    exact .pickUp (state ifTaken (.head _)) (state ifNot (.tail _ (.head _)))
  | drop next => exact .drop (state next (.head _))
  | turn rotation next => exact .turn (Rotation.named_iff.2 rfl) (state next (.head _))
  | move ifMoved ifBlocked =>
    exact .move (state ifMoved (.head _)) (state ifBlocked (.tail _ (.head _)))
  | flip odds ifZero ifOther =>
    have chance : Numeral .odds (Nat.repr odds) odds := by
      apply numeral_repr
      have small : odds < 2 ^ 32 := fits.bounded
      have pos : 0 < odds := fair
      rw [Quantity.Allows]
      omega
    exact .flip chance (state ifZero (.head _)) (state ifOther (.tail _ (.head _)))

theorem glyphic_words (i : Instruction) : ∀ w ∈ i.words, Glyphic w := by
  have gaze (g : Gaze) : Glyphic g.word := by
    cases g <;> simp [Gaze.word, Glyphic, isGlyph]
  have rotation (r : Rotation) : Glyphic r.word := by
    cases r <;> simp [Rotation.word, Glyphic, isGlyph]
  have opcode : ∀ entry ∈ opcodes, Glyphic entry.1 := by
    simp [opcodes, Glyphic, isGlyph]
  simp only [opcodes, List.forall_mem_cons] at opcode
  cases i with
  | sense g ifTrue ifFalse condition =>
    rw [words, List.forall_mem_append]
    exact ⟨by simp [opcode, gaze, glyphic_repr], condition.glyphic_words⟩
  | _ => simp [words, opcode, rotation, glyphic_repr, Marker.word]

theorem words_ne_nil (i : Instruction) : i.words ≠ [] := by
  cases i <;> simp [words]

/-- What was written is read as it was meant. -/
theorem read_text {i : Instruction} (fits : i.Fits) (fair : i.Fair) :
    read i.text.toList = .ok i := by
  rw [read, text, codeWords_intercalate i.glyphic_words, run_eq_ok_iff]
  exact derives_words fits fair

/-- A flip that can never come out is written but not read. -/
theorem read_text_of_unfair {i : Instruction} (unfair : ¬i.Fair) :
    read i.text.toList = .error (.tooSmall .odds) := by
  rw [read, text, codeWords_intercalate i.glyphic_words]
  cases i with
  | flip odds ifZero ifOther =>
    obtain rfl : odds = 0 := Nat.eq_zero_of_not_pos unfair
    rfl
  | _ => exact absurd trivial unfair

end Instruction

/-! ### Lines -/

/-- A text that no blank ends. -/
def EndsSolid (cs : List Char) : Prop :=
  ∃ front c, cs = front ++ [c] ∧ isBlank c = false

theorem endsSolid_intercalate (sep : List Char) {parts : List (List Char)} (some : parts ≠ [])
    (each : ∀ part ∈ parts, EndsSolid part) : EndsSolid (sep.intercalate parts) := by
  induction parts with
  | nil => exact absurd rfl some
  | cons part parts ih =>
    rw [List.forall_mem_cons] at each
    cases parts with
    | nil =>
      rw [List.intercalate_singleton]
      exact each.1
    | cons next parts =>
      obtain ⟨front, c, last, solid⟩ := ih (List.cons_ne_nil next parts) each.2
      rw [List.intercalate_cons_cons, last, ← List.append_assoc]
      exact ⟨_, c, rfl, solid⟩

theorem Glyphic.endsSolid {w : String} (glyphic : Glyphic w) : EndsSolid w.toList := by
  rcases List.eq_nil_or_concat w.toList with empty | ⟨front, c, last⟩
  · exact absurd (String.toList_eq_nil_iff.1 empty) glyphic.1
  · rw [List.concat_eq_append] at last
    have glyph : isGlyph c := glyphic.2 c (by simp [last])
    exact ⟨front, c, last, (isGlyph_facts glyph).2.2.1⟩

/-- The written form of an instruction is one line, and no blank ends it. -/
theorem Instruction.text_line (i : Instruction) :
    '\n' ∉ i.text.toList ∧ EndsSolid i.text.toList := by
  constructor
  · intro feed
    rcases mem_intercalate feed with blank | ⟨w, isWord, mem⟩
    · revert blank
      decide
    · exact (isGlyph_facts ((i.glyphic_words w isWord).2 '\n' mem)).2.2.2.2 rfl
  · rw [text, String.toList_intercalate]
    apply endsSolid_intercalate
    · simpa using i.words_ne_nil
    · intro part mem
      obtain ⟨w, isWord, rfl⟩ := List.mem_map.1 mem
      exact (i.glyphic_words w isWord).endsSolid

theorem trimRight_append_solid (front : List Char) {c : Char} (solid : isBlank c = false) :
    trimRight (front ++ [c]) = front ++ [c] := by
  simp [trimRight, solid]

theorem trimRight_append_blanks (cs : List Char) {bs : List Char} (blank : ∀ c ∈ bs, isBlank c) :
    trimRight (cs ++ bs) = trimRight cs := by
  rw [trimRight, List.reverse_append, List.dropWhile_append_of_pos (by simpa using blank),
    trimRight]

/-- Lines that are each ended by a line feed are the lines with a line feed between any two, and one
more. -/
theorem flatMap_feed {lines : List (List Char)} (some : lines ≠ []) :
    lines.flatMap (· ++ ['\n']) = ['\n'].intercalate lines ++ ['\n'] := by
  induction lines with
  | nil => exact absurd rfl some
  | cons line lines ih =>
    cases lines with
    | nil => simp
    | cons next lines =>
      rw [List.flatMap_cons, ih (List.cons_ne_nil next lines), List.intercalate_cons_cons]
      simp only [List.append_assoc]

/-- The lines of instructions that are written down. -/
theorem Brain.sourceLines_sourceOf {is : List Instruction} (some : is ≠ []) :
    sourceLines (sourceOf is) = is.map fun i => i.text.toList := by
  have written : (sourceOf is).toList = (is.map fun i => i.text.toList).flatMap (· ++ ['\n']) := by
    simp [sourceOf, List.flatMap_map]
  have some : (is.map fun i => i.text.toList) ≠ [] := by simpa using some
  have each : ∀ line ∈ is.map fun i => i.text.toList, '\n' ∉ line ∧ EndsSolid line := by
    intro line mem
    obtain ⟨i, -, rfl⟩ := List.mem_map.1 mem
    exact i.text_line
  -- Of the blanks at the end of the text there is only the last line feed.
  obtain ⟨front, c, last, solid⟩ :=
    endsSolid_intercalate ['\n'] some fun line mem => (each line mem).2
  rw [sourceLines, written, flatMap_feed some, trimRight_append_blanks _ (by simp [isBlank]), last,
    trimRight_append_solid front solid, ← last]
  exact List.splitOn_intercalate '\n' (fun line mem => (each line mem).1) some

/-! ### Brains as text -/

/-- Where not all have a property, one is the first without it. -/
theorem exists_first_not {α : Type} {P : α → Prop} {xs : List α} (some : ∃ x ∈ xs, ¬P x) :
    ∃ front x back, xs = front ++ x :: back ∧ (∀ y ∈ front, P y) ∧ ¬P x := by
  induction xs with
  | nil => simp at some
  | cons x xs ih =>
    by_cases here : P x
    · have later : ∃ x ∈ xs, ¬P x := by simpa [here] using some
      obtain ⟨front, y, back, rfl, before, first⟩ := ih later
      exact ⟨x :: front, y, back, rfl, List.forall_mem_cons.2 ⟨here, before⟩, first⟩
    · exact ⟨[], x, xs, rfl, by simp, here⟩

namespace Brain

/-- Instructions that are read off lines, one off each. -/
abbrev Readings (lines : List (List Char)) (is : List Instruction) : Prop :=
  List.Forall₂ (fun line i => Instruction.read line = .ok i) lines is

/-- Lines that are all instructions are read as they are numbered. -/
theorem mapM_readLine {lines : List (List Char)} {is : List Instruction}
    (readings : Readings lines is) (n : Nat) :
    (lines.zipIdx n).mapM (fun x => readLine x.2 x.1) = .ok ((lines.map String.ofList).zip is) := by
  induction readings generalizing n with
  | nil => rfl
  | @cons line i lines is isRead _ ih =>
    have first : readLine n line = .ok (String.ofList line, i) := by simp only [readLine, isRead]
    simp only [List.zipIdx_cons, List.mapM_cons, first, ih (n + 1)]
    rfl

/-- A text whose lines are all instructions is what its lines make. -/
theorem read_of_readings {source : String} {is : List Instruction}
    (readings : Readings (sourceLines source) is) :
    read source = assemble (((sourceLines source).map String.ofList).zip is) := by
  rw [read, mapM_readLine readings 0]
  rfl

/-- The first line that is no instruction fails the whole. -/
theorem read_of_unread {source : String} {front back : List (List Char)} {line : List Char}
    {e : LineFault} (split : sourceLines source = front ++ line :: back)
    (before : ∀ l ∈ front, ∃ i, Instruction.read l = .ok i)
    (fault : Instruction.read line = .error e) :
    read source = .error (.line (front.length + 1) (String.ofList line) e) := by
  have fine : ∀ x ∈ front.zipIdx, ∃ entry, readLine x.2 x.1 = .ok entry := by
    intro x mem
    obtain ⟨i, isRead⟩ := before x.1 (List.fst_mem_of_mem_zipIdx mem)
    exact ⟨(String.ofList x.1, i), by simp only [readLine, isRead]⟩
  have fails : readLine front.length line =
      .error (.line (front.length + 1) (String.ofList line) e) := by
    simp only [readLine, fault]
  have whole : (front ++ line :: back).zipIdx.mapM (fun x => readLine x.2 x.1) =
      .error (.line (front.length + 1) (String.ofList line) e) := by
    rw [List.zipIdx_append, List.zipIdx_cons, Nat.zero_add]
    exact mapM_eq_error_iff.2 ⟨_, _, _, rfl, fine, fails⟩
  -- The lines are read before any state is checked, so assembly has no say.
  rw [read, split, whole]
  rfl

/-- Instructions that are written and read make the brain, or the fault, that they make at once. -/
theorem read_sourceOf {is : List Instruction} (some : is ≠ []) (fits : ∀ i ∈ is, i.Fits)
    (fair : ∀ i ∈ is, i.Fair) : read (sourceOf is) = ofInstructions is := by
  have lines := sourceLines_sourceOf some
  have readings : Readings (sourceLines (sourceOf is)) is := by
    rw [lines, Readings, List.forall₂_map_left_iff, List.forall₂_same]
    exact fun i mem => Instruction.read_text (fits i mem) (fair i mem)
  rw [read_of_readings readings, lines, ofInstructions, List.map_map, List.zip_map_left]
  simp [List.zip_eq_zipWith, List.zipWith_self, Function.comp_def]

/-- The first flip without odds fails the whole. -/
theorem read_sourceOf_of_unfair {front back : List Instruction} {i : Instruction}
    (fits : ∀ j ∈ front, j.Fits) (fair : ∀ j ∈ front, j.Fair) (unfair : ¬i.Fair) :
    read (sourceOf (front ++ i :: back)) =
      .error (.line (front.length + 1) i.text (.tooSmall .odds)) := by
  have split : sourceLines (sourceOf (front ++ i :: back)) =
      (front.map fun j => j.text.toList) ++ i.text.toList :: back.map fun j => j.text.toList := by
    rw [sourceLines_sourceOf (by simp), List.map_append, List.map_cons]
  have before : ∀ l ∈ front.map fun j => j.text.toList, ∃ j, Instruction.read l = .ok j := by
    intro l mem
    obtain ⟨j, earlier, rfl⟩ := List.mem_map.1 mem
    exact ⟨j, Instruction.read_text (fits j earlier) (fair j earlier)⟩
  have failed := read_of_unread split before (Instruction.read_text_of_unfair unfair)
  rwa [List.length_map, String.ofList_toList] at failed

/-! ### Brains that were assembled -/

/-- The first instruction that leads out of the list, and the first state that it leads to there. -/
theorem stray?_eq_some_iff {is : List Instruction} {n : Nat} {s : State} :
    stray? is = some (n, s) ↔
      ∃ front i back, is = front ++ i :: back ∧ front.length = n ∧
        strayState? is.length i = some s ∧ ∀ j ∈ front, strayState? is.length j = none := by
  rw [stray?, List.findSome?_eq_some_iff]
  constructor
  · rintro ⟨before, ⟨i, k⟩, after, split, here, earlier⟩
    obtain ⟨front, rest, rfl, rfl, isRest⟩ := List.zipIdx_eq_append_iff.1 split
    obtain ⟨_, back, rfl, same, -⟩ := List.zipIdx_eq_cons_iff.1 isRest.symm
    obtain ⟨rfl, rfl⟩ := Prod.mk.inj same
    obtain ⟨_, stray, same⟩ := Option.map_eq_some_iff.1 here
    obtain ⟨rfl, rfl⟩ := Prod.mk.inj same
    refine ⟨front, i, back, rfl, (Nat.zero_add _).symm, stray, fun j mem => ?_⟩
    obtain ⟨k, inside, rfl⟩ := List.getElem_of_mem mem
    have numbered : (front[k], k) ∈ front.zipIdx :=
      List.mk_mem_zipIdx_iff_getElem?.2 (List.getElem?_eq_getElem inside)
    exact Option.map_eq_none_iff.1 (earlier _ numbered)
  · rintro ⟨front, i, back, split, rfl, stray, earlier⟩
    refine ⟨front.zipIdx, (i, front.length), back.zipIdx (front.length + 1), ?_, ?_, ?_⟩
    · rw [split, List.zipIdx_append, List.zipIdx_cons, Nat.zero_add]
    · simp only [stray, Option.map_some]
    · intro x mem
      simp only [earlier x.1 (List.fst_mem_of_mem_zipIdx mem), Option.map_none]

theorem leads_out_of_stray? {is : List Instruction} {n : Nat} {s : State}
    (found : stray? is = some (n, s)) :
    ∃ i, is[n]? = some i ∧ s ∈ i.successors ∧ is.length ≤ s := by
  obtain ⟨front, i, back, split, rfl, stray, -⟩ := stray?_eq_some_iff.1 found
  have out : is.length ≤ s := of_decide_eq_true (List.find?_some (p := (is.length ≤ ·)) stray)
  exact ⟨i, by simp [split], List.mem_of_find?_eq_some stray, out⟩

/-- Assembly fails if there is nothing to assemble, or where an instruction leads out of the
list. -/
theorem fault_of_assemble {lines : List (String × Instruction)} {e : BrainFault}
    (failed : assemble lines = .error e) :
    (lines = [] ∧ e = .empty) ∨
      ∃ n text i s, lines[n]? = some (text, i) ∧ s ∈ i.successors ∧ lines.length ≤ s ∧
        e = .line (n + 1) text (.stateOutOfRange s lines.length) := by
  simp only [assemble, List.length_map] at failed
  split at failed
  · rename_i empty
    cases failed
    exact .inl ⟨List.map_eq_nil_iff.1 empty, rfl⟩
  · split at failed
    · rename_i n s closed
      obtain ⟨i, here, leads, out⟩ := leads_out_of_stray? closed
      rw [List.getElem?_map, Option.map_eq_some_iff] at here
      obtain ⟨⟨text, i⟩, here, rfl⟩ := here
      rw [List.length_map] at out
      rw [List.getElem?_map, here] at failed
      cases failed
      exact .inr ⟨n, text, i, s, here, leads, out, rfl⟩
    · cases failed

/-- What becomes of instructions: a brain of them, or a fault where one leads out of the list. -/
theorem ofInstructions_cases {is : List Instruction} (some : is ≠ []) :
    (∃ b, ofInstructions is = .ok b ∧ b.instructions = is.toArray) ∨
      ∃ n i s, is[n]? = .some i ∧ s ∈ i.successors ∧ is.length ≤ s ∧
        ofInstructions is = .error (.line (n + 1) i.text (.stateOutOfRange s is.length)) := by
  cases made : ofInstructions is with
  | ok b =>
    refine .inl ⟨b, rfl, ?_⟩
    rw [instructions_of_assemble made, List.map_map]
    exact congrArg List.toArray (List.map_id is)
  | error e =>
    rcases fault_of_assemble made with ⟨empty, -⟩ | ⟨n, text, i, s, here, leads, out, rfl⟩
    · exact absurd (List.map_eq_nil_iff.1 empty) some
    · rw [List.getElem?_map, Option.map_eq_some_iff] at here
      obtain ⟨i, here, same⟩ := here
      obtain ⟨rfl, rfl⟩ := Prod.mk.inj same
      rw [List.length_map] at out ⊢
      exact .inr ⟨n, i, s, here, leads, out, rfl⟩

theorem toList_ne_nil (b : Brain) : b.instructions.toList ≠ [] := by
  have pos := b.size_pos
  intro empty
  simp [Array.toList_eq_nil_iff.1 empty] at pos

/-- A brain is what its instructions make. -/
theorem ofInstructions_toList (b : Brain) : ofInstructions b.instructions.toList = .ok b := by
  rcases ofInstructions_cases b.toList_ne_nil with
    ⟨b', made, same⟩ | ⟨n, i, s, here, leads, out, -⟩
  · rw [made]
    cases b
    cases b'
    cases same
    rfl
  · have mem := List.mem_of_getElem? here
    have inside := b.successors_lt i (Array.mem_toList_iff.1 mem) s leads
    rw [Array.length_toList] at out
    exact absurd inside (Nat.not_lt.2 out)

/-- What is read from the text of a brain is the brain, provided that its flips have odds. -/
theorem read_text_iff {b : Brain} (size : b.size ≤ 2 ^ 63)
    (bounded : ∀ i ∈ b.instructions, i.Bounded) : read b.text = .ok b ↔ b.Fair := by
  constructor
  · exact fair_of_read
  · intro fair
    have fits : ∀ i ∈ b.instructions.toList, i.Fits := by
      intro i mem
      rw [Array.mem_toList_iff] at mem
      refine ⟨fun s leads => ?_, bounded i mem⟩
      have inside : s < b.size := b.successors_lt i mem s leads
      exact Nat.le_pred_of_lt (Nat.lt_of_lt_of_le inside size)
    have written := read_sourceOf b.toList_ne_nil fits
      fun i mem => fair i (Array.mem_toList_iff.1 mem)
    rw [b.ofInstructions_toList] at written
    exact written

/-- To write instructions down and to read them is to assemble them, and a fault is the same as if
they had not been written. Odds of zero are the exception: a flip that has them can be written, but
the first such flip is refused, whatever else is wrong. So what is read from the text of a brain is
the brain, if and only if its flips have odds. -/
theorem reads_what_it_writes :
    (∀ is : List Instruction, is ≠ [] → (∀ i ∈ is, i.Fits) →
      ((∀ i ∈ is, i.Fair) → read (sourceOf is) = ofInstructions is ∧
        ((∃ b, ofInstructions is = .ok b ∧ b.instructions = is.toArray) ∨
          ∃ n i s, is[n]? = some i ∧ s ∈ i.successors ∧ is.length ≤ s ∧
            ofInstructions is = .error (.line (n + 1) i.text (.stateOutOfRange s is.length)))) ∧
      ((∃ i ∈ is, ¬i.Fair) → ∃ front i back, is = front ++ i :: back ∧
        (∀ j ∈ front, j.Fair) ∧ ¬i.Fair ∧
          read (sourceOf is) = .error (.line (front.length + 1) i.text (.tooSmall .odds)))) ∧
      ∀ b : Brain, b.size ≤ 2 ^ 63 → (∀ i ∈ b.instructions, i.Bounded) →
        (read b.text = .ok b ↔ ∀ i ∈ b.instructions, i.Fair) := by
  refine ⟨fun is some fits => ⟨?fair, ?unfair⟩, fun b => read_text_iff⟩
  case fair =>
    intro fair
    exact ⟨read_sourceOf some fits fair, ofInstructions_cases some⟩
  case unfair =>
    intro unfair
    obtain ⟨front, i, back, rfl, fair, unfair⟩ := exists_first_not unfair
    have before : ∀ j ∈ front, j.Fits := fun j mem => fits j (List.mem_append_left _ mem)
    exact ⟨front, i, back, rfl, fair, unfair, read_sourceOf_of_unfair before fair unfair⟩

/-- A coin is written and read back. Instructions that lead astray fail alike in both ways, but not
if one of them is a flip without odds. -/
theorem coin_reads_back :
    (∃ b, ofInstructions [.flip 2 1 0, .drop 0] = .ok b ∧ read b.text = .ok b) ∧
      read (sourceOf [.drop 9, .drop 0]) = ofInstructions [.drop 9, .drop 0] ∧
      ∃ n text,
        read (sourceOf [.drop 9, .flip 0 1 0]) = .error (.line n text (.tooSmall .odds)) := by
  obtain ⟨lists, brains⟩ := reads_what_it_writes
  have drop {s : State} (small : s ≤ 2 ^ 63 - 1) : (Instruction.drop s).Fits :=
    ⟨by simpa [Instruction.successors] using small, trivial⟩
  have flip : (Instruction.flip 0 1 0).Fits :=
    ⟨by simp [Instruction.successors], by simp [Instruction.Bounded]⟩
  refine ⟨?coin, ?astray, ?oddless⟩
  case coin =>
    refine ⟨_, rfl, (brains _ (by decide) ?_).2 ?_⟩
    · simp [Instruction.Bounded]
    · simp [Instruction.Fair]
  case astray =>
    refine ((lists _ (by simp) ?_).1 ?_).1
    · simp [drop]
    · simp [Instruction.Fair]
  case oddless =>
    obtain ⟨front, i, -, -, -, -, failed⟩ :=
      (lists [.drop 9, .flip 0 1 0] (by simp) (by simp [drop, flip])).2 (by simp [Instruction.Fair])
    exact ⟨_, _, failed⟩

end Brain

end Formicary
