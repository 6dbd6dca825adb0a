/-
Module: Formicary.Proofs.Grammar
Purpose: The grammar of instructions, and that the lines it allows are those that are read.
Main exports: Condition.Derives, Instruction.Derives, Instruction.run_eq_ok_iff,
  Instruction.read_iff_derives
-/
import Formicary.Proofs.Readers

namespace Formicary

open Text

/-!
The grammar is given in full, with each word spelled out, so that it owes nothing to the readers. An
operand that is a number is any numeral for it.
-/

inductive Gaze.Named : String → Gaze → Prop
  | here : Named "here" .here
  | ahead : Named "ahead" .ahead
  | leftAhead : Named "leftahead" .leftAhead
  | rightAhead : Named "rightahead" .rightAhead

inductive Rotation.Named : String → Rotation → Prop
  | left : Named "left" .left
  | right : Named "right" .right

/-- A marker is named by one digit. -/
def Marker.Named (w : String) (m : Marker) : Prop :=
  ["0", "1", "2", "3", "4", "5"][m.val]? = some w

/-- The words for a condition. -/
inductive Condition.Derives : List String → Condition → Prop
  | friend : Derives ["friend"] .friend
  | foe : Derives ["foe"] .foe
  | friendWithFood : Derives ["friendwithfood"] .friendWithFood
  | foeWithFood : Derives ["foewithfood"] .foeWithFood
  | food : Derives ["food"] .food
  | rock : Derives ["rock"] .rock
  | foeMarker : Derives ["foemarker"] .foeMarker
  | home : Derives ["home"] .home
  | foeHome : Derives ["foehome"] .foeHome
  | marker {w : String} {m : Marker} (named : Marker.Named w m) : Derives ["marker", w] (.marker m)

/-- The words for an instruction. -/
inductive Instruction.Derives : List String → Instruction → Prop
  | sense {d t f : String} {c : List String} {gaze : Gaze} {ifTrue ifFalse : State}
    {condition : Condition} (named : Gaze.Named d gaze) (first : Numeral .state t ifTrue)
    (second : Numeral .state f ifFalse) (asked : Condition.Derives c condition) :
    Derives (["sense", d, t, f] ++ c) (.sense gaze ifTrue ifFalse condition)
  | mark {m s : String} {marker : Marker} {next : State} (named : Marker.Named m marker)
    (first : Numeral .state s next) : Derives ["mark", m, s] (.mark marker next)
  | unmark {m s : String} {marker : Marker} {next : State} (named : Marker.Named m marker)
    (first : Numeral .state s next) : Derives ["unmark", m, s] (.unmark marker next)
  | pickUp {t f : String} {ifTaken ifNot : State} (first : Numeral .state t ifTaken)
    (second : Numeral .state f ifNot) : Derives ["pickup", t, f] (.pickUp ifTaken ifNot)
  | drop {s : String} {next : State} (first : Numeral .state s next) :
    Derives ["drop", s] (.drop next)
  | turn {r s : String} {rotation : Rotation} {next : State} (named : Rotation.Named r rotation)
    (first : Numeral .state s next) : Derives ["turn", r, s] (.turn rotation next)
  | move {t f : String} {ifMoved ifBlocked : State} (first : Numeral .state t ifMoved)
    (second : Numeral .state f ifBlocked) : Derives ["move", t, f] (.move ifMoved ifBlocked)
  | flip {p z o : String} {odds : Nat} {ifZero ifOther : State} (chance : Numeral .odds p odds)
    (first : Numeral .state z ifZero) (second : Numeral .state o ifOther) :
    Derives ["flip", p, z, o] (.flip odds ifZero ifOther)

/-! ### Words of a fixed list -/

theorem Gaze.named_iff {w : String} {gaze : Gaze} : Gaze.Named w gaze ↔ w = gaze.word := by
  constructor
  · intro named
    cases named <;> rfl
  · rintro rfl
    cases gaze <;> constructor

theorem Rotation.named_iff {w : String} {rotation : Rotation} :
    Rotation.Named w rotation ↔ w = rotation.word := by
  constructor
  · intro named
    cases named <;> rfl
  · rintro rfl
    cases rotation <;> constructor

theorem Marker.named_iff {w : String} {m : Marker} : Marker.Named w m ↔ w = Marker.word m := by
  have digit : ["0", "1", "2", "3", "4", "5"][m.val]? = some (Marker.word m) := by
    revert m
    decide
  rw [Named, digit, Option.some.injEq, eq_comm]

theorem Gaze.form_reads_named : Gaze.form.ReadsWord .gaze Gaze.Named :=
  form_reads.congr fun _ _ => named_iff.symm

theorem Rotation.form_reads_named : Rotation.form.ReadsWord .rotation Rotation.Named :=
  form_reads.congr fun _ _ => named_iff.symm

theorem Marker.form_reads_named : Marker.form.ReadsWord .marker Marker.Named :=
  form_reads.congr fun _ _ => named_iff.symm

/-! ### Answers of the readers -/

namespace Form

variable {α : Type} {a : α} {ws : List String}

theorem run_map {β : Type} {f : Form α} {h : α → β} {b : β} :
    (f >>= fun a => pure (h a)).run ws = .ok b ↔ ∃ a, f.run ws = .ok a ∧ b = h a := by
  induction f generalizing ws with
  | done a => cases ws <;> simp [run, eq_comm]
  | refuse e => simp [run]
  | next slot read ih =>
    cases ws with
    | nil => simp [run]
    | cons w ws => exact ih w

theorem run_done {b : α} : (.done a : Form α).run ws = .ok b ↔ ws = [] ∧ b = a := by
  cases ws <;> simp [run, eq_comm]

/-- A word of a list is read where it stands, and then the words that the list asks for. -/
theorem run_choice {slot : Slot} {table : List (String × Form α)}
    (nodup : (table.map Prod.fst).Nodup) :
    (choice slot table).run ws = .ok a ↔
      ∃ entry ∈ table, ∃ rest, ws = entry.1 :: rest ∧ entry.2.run rest = .ok a := by
  cases ws with
  | nil => simp [choice, run]
  | cons w ws =>
    change ((table.lookup w).getD (.refuse (.unknown slot))).run ws = .ok a ↔ _
    constructor
    · intro ran
      cases lookup : table.lookup w with
      | none =>
        rw [lookup] at ran
        cases ran
      | some g =>
        rw [lookup] at ran
        exact ⟨(w, g), mem_of_lookup lookup, ws, rfl, ran⟩
    · rintro ⟨⟨v, g⟩, mem, rest, same, ran⟩
      obtain ⟨rfl, rfl⟩ := List.cons.inj same
      rw [lookup_of_mem nodup mem]
      exact ran

end Form

theorem Condition.derives_iff {ws : List String} {c : Condition} :
    Derives ws c ↔
      (c ∈ plain ∧ ws = [c.word]) ∨
        ∃ w m, ws = ["marker", w] ∧ Marker.Named w m ∧ c = .marker m := by
  constructor
  · intro derives
    cases derives
    case marker named => exact .inr ⟨_, _, rfl, named, rfl⟩
    all_goals exact .inl ⟨by simp [plain], rfl⟩
  · rintro (⟨isPlain, rfl⟩ | ⟨w, m, rfl, named, rfl⟩)
    · cases c
      case marker => simp [plain] at isPlain
      all_goals constructor
    · exact .marker named

theorem Condition.run_eq_ok_iff {ws : List String} {c : Condition} :
    Condition.form.run ws = .ok c ↔ Condition.Derives ws c := by
  rw [form, Form.run_choice (by simp [plain, word]), derives_iff]
  constructor
  · rintro ⟨entry, mem, rest, rfl, ran⟩
    rcases List.mem_cons.1 mem with rfl | mem
    · obtain ⟨w, rest, m, rfl, named, ran⟩ := Marker.form_reads_named.run_bind.1 ran
      obtain ⟨rfl, rfl⟩ := Form.run_done.1 ran
      exact .inr ⟨w, m, rfl, named, rfl⟩
    · obtain ⟨c, isPlain, rfl⟩ := List.mem_map.1 mem
      obtain ⟨rfl, rfl⟩ := Form.run_done.1 ran
      exact .inl ⟨isPlain, rfl⟩
  · rintro (⟨isPlain, rfl⟩ | ⟨w, m, rfl, named, rfl⟩)
    · have mem : (c.word, Form.done c) ∈ plain.map fun c => (c.word, .done c) :=
        List.mem_map.2 ⟨c, isPlain, rfl⟩
      exact ⟨_, List.mem_cons_of_mem _ mem, [], rfl, rfl⟩
    · refine ⟨_, List.mem_cons_self, [w], rfl, ?_⟩
      exact Marker.form_reads_named.run_bind.2 ⟨w, [], m, rfl, named, rfl⟩

/-! ### Operands -/

section Operands

variable {α β : Type} {b : β} {ws : List String}

theorem State.run_map {h : State → β} :
    (State.form >>= fun s => pure (h s)).run ws = .ok b ↔
      ∃ w s, ws = [w] ∧ Numeral .state w s ∧ b = h s := by
  rw [State.form, Quantity.state.form_reads.run_bind]
  constructor
  · rintro ⟨w, rest, s, rfl, numeral, ran⟩
    obtain ⟨rfl, rfl⟩ := Form.run_done.1 ran
    exact ⟨w, s, rfl, numeral, rfl⟩
  · rintro ⟨w, s, rfl, numeral, rfl⟩
    exact ⟨w, [], s, rfl, numeral, rfl⟩

/-- A word, and then a state. -/
theorem Form.ReadsWord.run_state {f : Form α} {slot : Slot} {R : String → α → Prop}
    {h : α → State → β} (reads : f.ReadsWord slot R) :
    (f >>= fun a => State.form >>= fun s => pure (h a s)).run ws = .ok b ↔
      ∃ v w a s, ws = [v, w] ∧ R v a ∧ Numeral .state w s ∧ b = h a s := by
  rw [reads.run_bind]
  constructor
  · rintro ⟨v, rest, a, rfl, answer, ran⟩
    obtain ⟨w, s, rfl, numeral, rfl⟩ := State.run_map.1 ran
    exact ⟨v, w, a, s, rfl, answer, numeral, rfl⟩
  · rintro ⟨v, w, a, s, rfl, answer, numeral, rfl⟩
    exact ⟨v, [w], a, rfl, answer, State.run_map.2 ⟨w, s, rfl, numeral, rfl⟩⟩

end Operands

namespace Instruction

/-- The words that are read after an opcode are those the grammar has there. -/
theorem derives_of_operands :
    ∀ entry ∈ opcodes, ∀ {rest : List String} {i : Instruction},
      entry.2.run rest = .ok i → Derives (entry.1 :: rest) i := by
  have state := Quantity.state.form_reads
  simp only [opcodes, List.forall_mem_cons]
  refine ⟨?sense, ?mark, ?unmark, ?pickUp, ?drop, ?turn, ?move, ?flip, List.forall_mem_nil _⟩
  case sense =>
    intro rest i ran
    obtain ⟨d, _, gaze, rfl, named, ran⟩ := Gaze.form_reads_named.run_bind.1 ran
    obtain ⟨t, _, ifTrue, rfl, first, ran⟩ := state.run_bind.1 ran
    obtain ⟨f, c, ifFalse, rfl, second, ran⟩ := state.run_bind.1 ran
    obtain ⟨condition, asked, rfl⟩ := Form.run_map.1 ran
    exact .sense named first second (Condition.run_eq_ok_iff.1 asked)
  case mark =>
    intro rest i ran
    obtain ⟨m, s, marker, next, rfl, named, first, rfl⟩ := Marker.form_reads_named.run_state.1 ran
    exact .mark named first
  case unmark =>
    intro rest i ran
    obtain ⟨m, s, marker, next, rfl, named, first, rfl⟩ := Marker.form_reads_named.run_state.1 ran
    exact .unmark named first
  case pickUp =>
    intro rest i ran
    obtain ⟨t, f, ifTaken, ifNot, rfl, first, second, rfl⟩ := state.run_state.1 ran
    exact .pickUp first second
  case drop =>
    intro rest i ran
    obtain ⟨s, next, rfl, first, rfl⟩ := State.run_map.1 ran
    exact .drop first
  case turn =>
    intro rest i ran
    obtain ⟨r, s, rotation, next, rfl, named, first, rfl⟩ :=
      Rotation.form_reads_named.run_state.1 ran
    exact .turn named first
  case move =>
    intro rest i ran
    obtain ⟨t, f, ifMoved, ifBlocked, rfl, first, second, rfl⟩ := state.run_state.1 ran
    exact .move first second
  case flip =>
    intro rest i ran
    obtain ⟨p, _, odds, rfl, chance, ran⟩ := Quantity.odds.form_reads.run_bind.1 ran
    obtain ⟨z, o, ifZero, ifOther, rfl, first, second, rfl⟩ := state.run_state.1 ran
    exact .flip chance first second

/-- Whatever the grammar derives is an opcode with words that are read as its operands. -/
theorem Derives.operands {ws : List String} {i : Instruction} (derives : Derives ws i) :
    ∃ entry ∈ opcodes, ∃ rest, ws = entry.1 :: rest ∧ entry.2.run rest = .ok i := by
  have state := Quantity.state.form_reads
  cases derives with
  | sense named first second asked =>
    refine ⟨_, List.mem_of_getElem? (i := 0) rfl, _, rfl, ?_⟩
    refine Gaze.form_reads_named.run_bind.2 ⟨_, _, _, rfl, named, ?_⟩
    refine state.run_bind.2 ⟨_, _, _, rfl, first, state.run_bind.2 ⟨_, _, _, rfl, second, ?_⟩⟩
    exact Form.run_map.2 ⟨_, Condition.run_eq_ok_iff.2 asked, rfl⟩
  | mark named first =>
    refine ⟨_, List.mem_of_getElem? (i := 1) rfl, _, rfl, ?_⟩
    exact Marker.form_reads_named.run_state.2 ⟨_, _, _, _, rfl, named, first, rfl⟩
  | unmark named first =>
    refine ⟨_, List.mem_of_getElem? (i := 2) rfl, _, rfl, ?_⟩
    exact Marker.form_reads_named.run_state.2 ⟨_, _, _, _, rfl, named, first, rfl⟩
  | pickUp first second =>
    refine ⟨_, List.mem_of_getElem? (i := 3) rfl, _, rfl, ?_⟩
    exact state.run_state.2 ⟨_, _, _, _, rfl, first, second, rfl⟩
  | drop first =>
    refine ⟨_, List.mem_of_getElem? (i := 4) rfl, _, rfl, ?_⟩
    exact State.run_map.2 ⟨_, _, rfl, first, rfl⟩
  | turn named first =>
    refine ⟨_, List.mem_of_getElem? (i := 5) rfl, _, rfl, ?_⟩
    exact Rotation.form_reads_named.run_state.2 ⟨_, _, _, _, rfl, named, first, rfl⟩
  | move first second =>
    refine ⟨_, List.mem_of_getElem? (i := 6) rfl, _, rfl, ?_⟩
    exact state.run_state.2 ⟨_, _, _, _, rfl, first, second, rfl⟩
  | flip chance first second =>
    refine ⟨_, List.mem_of_getElem? (i := 7) rfl, _, rfl, ?_⟩
    refine Quantity.odds.form_reads.run_bind.2 ⟨_, _, _, rfl, chance, ?_⟩
    exact state.run_state.2 ⟨_, _, _, _, rfl, first, second, rfl⟩

/-- The reader of instructions reads just what the grammar derives. -/
theorem run_eq_ok_iff {ws : List String} {i : Instruction} :
    form.run ws = .ok i ↔ Derives ws i := by
  have nodup : (opcodes.map Prod.fst).Nodup := by simp [opcodes]
  rw [form, Form.run_choice nodup]
  constructor
  · rintro ⟨entry, mem, rest, rfl, ran⟩
    exact derives_of_operands entry mem ran
  · exact Derives.operands

/-- Where a number is due, it does not matter how the number is spelled. -/
theorem run_respelled {front : List String} {q : Quantity} {w w' : String}
    (due : slotAfter front = some (.number q)) (same : q.read w = q.read w') (back : List String) :
    form.run (front ++ w :: back) = form.run (front ++ w' :: back) := by
  simp only [Form.run_eq, Form.after_append]
  -- The reader need not ask for a word here: an earlier one may have been refused.
  cases left : form.after front with
  | done a => rfl
  | refuse e => rfl
  | next slot read =>
    have place := form_asks.slot_eq left
    rw [due, Option.some.injEq] at place
    rcases form_regular.after left with regular | ⟨e, refused⟩
    · have alike : read w = read w' := regular.number q place.symm w w' same
      exact congrArg (fun f => (f.after back).finish) alike
    · cases refused

/-- A line is read as an instruction if and only if the grammar derives its words for the
instruction. The case of ASCII letters does not matter, nor do comments, the blanks between words,
and the spelling of numbers. -/
theorem read_iff_derives {line : List Char} {ws : List String} (has : HasWords line ws) :
    (∀ i, read line = .ok i ↔ Derives ws i) ∧
      (∀ line', line'.map Char.toLower = line.map Char.toLower → read line' = read line) ∧
      (∀ comment, read (line ++ ';' :: comment) = read line) ∧
      (∀ line', Text.words (line'.takeWhile (· ≠ ';')) = Text.words (line.takeWhile (· ≠ ';')) →
        read line' = read line) ∧
      ∀ {front back : List String} {w w' : String} {q : Quantity} {n : Nat} {line' : List Char},
        ws = front ++ w :: back → slotAfter front = some (.number q) → Numeral q w n →
        Numeral q w' n → HasWords line' (front ++ w' :: back) → read line' = read line := by
  refine ⟨?grammar, ?case, ?comment, ?blanks, ?numbers⟩
  case grammar =>
    intro i
    rw [read_eq_run has, run_eq_ok_iff]
  case case =>
    intro line' same
    rw [read, codeWords_of_case same, read]
  case comment =>
    intro comment
    rw [read, codeWords_comment, read]
  case blanks =>
    intro line' same
    rw [read, codeWords_of_words same, read]
  case numbers =>
    rintro front back w w' q n line' rfl due numeral numeral' has'
    have same : q.read w' = q.read w := by
      rw [Quantity.read_eq_ok_iff.2 numeral, Quantity.read_eq_ok_iff.2 numeral']
    rw [read_eq_run has, read_eq_run has', run_respelled due same]

/-- A flip with a capital letter, a comment and unusual numerals. -/
theorem read_unusual_flip :
    HasWords "Flip  +02.0 01 -0;even".toList ["flip", "+02.0", "01", "-0"] ∧
      read "Flip  +02.0 01 -0;even".toList = .ok (.flip 2 1 0) := by
  have has : HasWords "Flip  +02.0 01 -0;even".toList ["flip", "+02.0", "01", "-0"] :=
    ⟨_, lowered_lowercase _, rfl⟩
  have derives : Derives ["flip", "+02.0", "01", "-0"] (.flip 2 1 0) :=
    .flip (Quantity.read_eq_ok_iff.1 (by decide)) (Quantity.read_eq_ok_iff.1 (by decide))
      (Quantity.read_eq_ok_iff.1 (by decide))
  exact ⟨has, ((read_iff_derives has).1 _).2 derives⟩

end Instruction

end Formicary
