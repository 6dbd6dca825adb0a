/-
Module: Formicary.Proofs.Readers
Purpose: What readers of one line do with words: how far they get, what they refuse, and which place
  they ask to be filled.
Main exports: Form.after, Form.Regular, Form.Regular.failure, Instruction.form_regular,
  Instruction.read_eq_run, slotAfter, Instruction.form_asks
-/
import Formicary.Proofs.Numerals

namespace Formicary

open Text

theorem mem_of_lookup {α : Type} {table : List (String × α)} {w : String} {a : α}
    (found : table.lookup w = some a) : (w, a) ∈ table := by
  obtain ⟨front, back, rfl, -⟩ := List.lookup_eq_some_iff.1 found
  exact List.mem_append_right front List.mem_cons_self

/-- Where no word stands twice, an entry is found by its word. -/
theorem lookup_of_mem {α : Type} {table : List (String × α)} {w : String} {a : α}
    (nodup : (table.map Prod.fst).Nodup) (mem : (w, a) ∈ table) : table.lookup w = some a := by
  obtain ⟨front, back, rfl⟩ := List.append_of_mem mem
  rw [List.map_append, List.map_cons, List.nodup_middle, List.nodup_cons] at nodup
  refine List.lookup_eq_some_iff.2 ⟨front, back, rfl, fun entry before => ?_⟩
  rw [bne_iff_ne]
  rintro rfl
  exact nodup.1 (List.mem_append_left _ (List.mem_map.2 ⟨entry, before, rfl⟩))

/-- The faults of a word that cannot stand in a place. -/
inductive Slot.Refuses : Slot → LineFault → Prop
  | unknown (slot : Slot) : slot.Refuses (.unknown slot)
  | fractional (q : Quantity) : Slot.Refuses (.number q) (.fractional q)
  | tooSmall (q : Quantity) : Slot.Refuses (.number q) (.tooSmall q)

namespace Form

variable {α β : Type} {f : Form α} {slot : Slot} {front back ws : List String}

/-! ### Readers after some words -/

/-- What is left of a reader after some words. -/
def after : Form α → List String → Form α
  | f, [] => f
  | .done _, _ :: _ => .refuse .extraWords
  | .refuse e, _ :: _ => .refuse e
  | .next _ read, w :: ws => (read w).after ws

/-- The result of a reader where the line ends. -/
def finish : Form α → Except LineFault α
  | .done a => .ok a
  | .refuse e => .error e
  | .next slot _ => .error (.missing slot)

@[simp] theorem after_nil (f : Form α) : f.after [] = f := by
  cases f <;> rfl

@[simp] theorem after_refuse (e : LineFault) (ws : List String) :
    (.refuse e : Form α).after ws = .refuse e := by
  cases ws <;> rfl

theorem after_append (f : Form α) (front back : List String) :
    f.after (front ++ back) = (f.after front).after back := by
  induction f generalizing front with
  | done a =>
    cases front with
    | nil => rw [List.nil_append, after_nil]
    | cons w front => exact (after_refuse .extraWords back).symm
  | refuse e => simp only [after_refuse]
  | next slot read ih =>
    cases front with
    | nil => rw [List.nil_append, after_nil]
    | cons w front => exact ih w front

/-- To run a reader is to give it the words and to see where that leaves it. -/
theorem run_eq (f : Form α) (ws : List String) : f.run ws = (f.after ws).finish := by
  induction f generalizing ws with
  | done a => cases ws <;> rfl
  | refuse e =>
    rw [after_refuse]
    rfl
  | next slot read ih =>
    cases ws with
    | nil => rfl
    | cons w ws => exact ih w ws

theorem run_eq_ok_iff {a : α} : f.run ws = .ok a ↔ f.after ws = .done a := by
  rw [run_eq]
  cases f.after ws <;> simp [finish]

/-! ### Regular readers -/

/-- A reader of the word in a place does as it should, where `regular w` says that it does so after
the word `w`. Some word may stand there; what may not is refused for a fault of the place; foreign
characters make a word unknown; and two spellings of a number are as good as each other. -/
structure RegularAt (slot : Slot) (read : String → Form α) (regular : String → Prop) : Prop where
  accepts : ∃ w, regular w
  refuses : ∀ w, regular w ∨ ∃ e, slot.Refuses e ∧ read w = .refuse e
  foreign : ∀ w, ¬Glyphic w → read w = .refuse (.unknown slot)
  number : ∀ q, slot = .number q → ∀ w v, q.read w = q.read v → read w = read v

/-- A reader does as it should in every place it comes to, and it can come to an answer. -/
def Regular : Form α → Prop
  | .done _ => True
  | .refuse _ => False
  | .next slot read => RegularAt slot read fun w => (read w).Regular

theorem Regular.bind {g : α → Form β} (first : f.Regular) (rest : ∀ a, (g a).Regular) :
    (f >>= g).Regular := by
  induction f with
  | done a => exact rest a
  | refuse e => exact first.elim
  | next slot read ih =>
    constructor
    case accepts =>
      obtain ⟨w, accepted⟩ := first.accepts
      exact ⟨w, ih w accepted⟩
    case refuses =>
      intro w
      rcases first.refuses w with accepted | ⟨e, fault, refused⟩
      · exact .inl (ih w accepted)
      · exact .inr ⟨e, fault, congrArg (· >>= g) refused⟩
    case foreign =>
      intro w foreign
      exact congrArg (· >>= g) (first.foreign w foreign)
    case number =>
      intro q isNumber w v same
      exact congrArg (· >>= g) (first.number q isNumber w v same)

theorem regular_word {read : String → Except LineFault α} (accepts : ∃ w a, read w = .ok a)
    (refuses : ∀ w e, read w = .error e → slot.Refuses e)
    (foreign : ∀ w, ¬Glyphic w → read w = .error (.unknown slot))
    (number : ∀ q, slot = .number q → ∀ w v, q.read w = q.read v → read w = read v) :
    (word slot read).Regular := by
  constructor
  case accepts =>
    obtain ⟨w, a, accepted⟩ := accepts
    exact ⟨w, by simp [accepted, Regular]⟩
  case refuses =>
    intro w
    dsimp only
    cases result : read w with
    | ok a => exact .inl trivial
    | error e => exact .inr ⟨e, refuses w e result, rfl⟩
  case foreign =>
    intro w foreign'
    simp only [foreign w foreign']
  case number =>
    intro q isNumber w v same
    simp only [number q isNumber w v same]

theorem regular_choice {table : List (String × Form α)} (notNumber : ∀ q, slot ≠ .number q)
    (nonempty : table ≠ []) (each : ∀ entry ∈ table, Glyphic entry.1 ∧ entry.2.Regular) :
    (choice slot table).Regular := by
  have found {w : String} {g : Form α} (lookup : table.lookup w = some g) :
      Glyphic w ∧ g.Regular :=
    each (w, g) (mem_of_lookup lookup)
  constructor
  case accepts =>
    obtain ⟨⟨w, g⟩, rest, rfl⟩ := List.exists_cons_of_ne_nil nonempty
    have first : ((w, g) :: rest).lookup w = some g := List.lookup_cons_self
    refine ⟨w, ?_⟩
    dsimp only
    rw [first]
    exact (found first).2
  case refuses =>
    intro w
    dsimp only
    cases lookup : table.lookup w with
    | none => exact .inr ⟨_, .unknown slot, rfl⟩
    | some g => exact .inl (found lookup).2
  case foreign =>
    intro w foreign
    cases lookup : table.lookup w with
    | none => rfl
    | some g => exact absurd (found lookup).1 foreign
  case number =>
    intro q isNumber
    exact absurd isNumber (notNumber q)

theorem regular_oneOf {values : List α} {spell : α → String} (notNumber : ∀ q, slot ≠ .number q)
    (nonempty : values ≠ []) (each : ∀ a ∈ values, Glyphic (spell a)) :
    (oneOf slot values spell).Regular := by
  apply regular_choice notNumber
  · simpa using nonempty
  · intro entry mem
    obtain ⟨a, isValue, rfl⟩ := List.mem_map.1 mem
    exact ⟨each a isValue, trivial⟩

/-- A regular reader comes to an answer with some words. -/
theorem Regular.exists_run (regular : f.Regular) : ∃ ws a, f.run ws = .ok a := by
  induction f with
  | done a => exact ⟨[], a, rfl⟩
  | refuse e => exact regular.elim
  | next slot read ih =>
    obtain ⟨w, accepted⟩ := regular.accepts
    obtain ⟨ws, a, ran⟩ := ih w accepted
    exact ⟨w :: ws, a, ran⟩

/-- How a reader fails: the words are too few, or too many, or one of them cannot stand in its
place. -/
inductive Failure (f : Form α) (ws : List String) : LineFault → Prop
  | missing (slot : Slot) (read : String → Form α) (due : f.after ws = .next slot read) :
    Failure f ws (.missing slot)
  | extraWords (front : List String) (w : String) (back : List String) (a : α)
    (split : ws = front ++ w :: back) (answer : f.after front = .done a) :
    Failure f ws .extraWords
  | refused (front : List String) (w : String) (back : List String) (slot : Slot)
    (read : String → Form α) (e : LineFault) (split : ws = front ++ w :: back)
    (due : f.after front = .next slot read) (fault : slot.Refuses e)
    (refusal : f.after (front ++ [w]) = .refuse e) : Failure f ws e

/-- A regular reader fails in no other way. -/
theorem Regular.failure {e : LineFault} (regular : f.Regular) (failed : f.run ws = .error e) :
    f.Failure ws e := by
  induction f generalizing ws with
  | done a =>
    cases ws with
    | nil => cases failed
    | cons w ws =>
      cases failed
      exact .extraWords [] w ws a rfl rfl
  | refuse e => exact regular.elim
  | next slot read ih =>
    cases ws with
    | nil =>
      cases failed
      exact .missing slot read rfl
    | cons w ws =>
      change (read w).run ws = .error e at failed
      rcases regular.refuses w with accepted | ⟨e', fault, refused⟩
      · cases ih w accepted failed with
        | missing slot read due => exact .missing slot read due
        | extraWords front v back a split answer =>
          exact .extraWords (w :: front) v back a (congrArg (w :: ·) split) answer
        | refused front v back slot read _ split due fault refusal =>
          exact .refused (w :: front) v back slot read e (congrArg (w :: ·) split) due fault refusal
      · rw [refused] at failed
        cases failed
        refine .refused [] w ws slot read e rfl rfl fault ?_
        exact congrArg (Form.after · []) refused

/-- What is left of a regular reader is regular, unless it refused a word. -/
theorem Regular.after (regular : f.Regular) {rest : Form α} (left : f.after ws = rest) :
    rest.Regular ∨ ∃ e, rest = .refuse e := by
  subst left
  induction f generalizing ws with
  | done a =>
    cases ws with
    | nil => exact .inl trivial
    | cons w ws => exact .inr ⟨_, rfl⟩
  | refuse e => exact regular.elim
  | next slot read ih =>
    cases ws with
    | nil => exact .inl regular
    | cons w ws =>
      rcases regular.refuses w with accepted | ⟨e, -, refused⟩
      · exact ih w accepted
      · refine .inr ⟨e, ?_⟩
        change (read w).after ws = _
        rw [refused, after_refuse]

/-- Only words of glyphs lead to an answer. -/
theorem Regular.glyphic_of_run {a : α} (regular : f.Regular) (ran : f.run ws = .ok a) :
    ∀ w ∈ ws, Glyphic w := by
  induction f generalizing ws with
  | done a =>
    cases ws with
    | nil => simp
    | cons w ws => cases ran
  | refuse e => exact regular.elim
  | next slot read ih =>
    cases ws with
    | nil => cases ran
    | cons w ws =>
      change (read w).run ws = .ok a at ran
      rw [List.forall_mem_cons]
      by_cases glyphic : Glyphic w
      · rcases regular.refuses w with accepted | ⟨e, -, refused⟩
        · exact ⟨glyphic, ih w accepted ran⟩
        · rw [refused] at ran
          cases ran
      · rw [regular.foreign w glyphic] at ran
        cases ran

/-- Words that are not of glyphs are as good as each other. -/
theorem Regular.run_congr (regular : f.Regular) {vs : List String}
    (alike : List.Forall₂ (fun w v => w = v ∨ ¬Glyphic w ∧ ¬Glyphic v) ws vs) :
    f.run ws = f.run vs := by
  induction alike generalizing f with
  | nil => rfl
  | @cons w v ws vs same _ ih =>
    cases f with
    | done a => rfl
    | refuse e => rfl
    | next slot read =>
      change (read w).run ws = (read v).run vs
      -- Two words that differ are both refused, and so the words behind them do not count.
      rcases same with rfl | ⟨foreign, foreign'⟩
      · rcases regular.refuses w with accepted | ⟨e, -, refused⟩
        · exact ih accepted
        · rw [refused]
          rfl
      · rw [regular.foreign w foreign, regular.foreign v foreign']
        rfl

/-! ### Places -/

/-- A reader asks for the places that are due after its words. -/
def Asks : Form α → (List String → Option Slot) → Prop
  | .next slot read, due => due [] = some slot ∧ ∀ w, (read w).Asks fun ws => due (w :: ws)
  | _, _ => True

theorem Asks.slot_eq {due : List String → Option Slot} {read : String → Form α} (asks : f.Asks due)
    (left : f.after front = .next slot read) : due front = some slot := by
  induction f generalizing due front with
  | done a => cases front <;> cases left
  | refuse e => cases front <;> cases left
  | next slot' read' ih =>
    cases front with
    | nil =>
      cases left
      exact asks.1
    | cons w front =>
      have rest := ih w (asks.2 w) left
      exact rest

theorem asks_choice {table : List (String × Form α)} {due : List String → Option Slot}
    (here : due [] = some slot)
    (each : ∀ entry ∈ table, entry.2.Asks fun ws => due (entry.1 :: ws)) :
    (choice slot table).Asks due := by
  refine ⟨here, fun w => ?_⟩
  dsimp only
  cases lookup : table.lookup w with
  | none => trivial
  | some g => exact each (w, g) (mem_of_lookup lookup)

theorem Asks.map {due : List String → Option Slot} (asks : f.Asks due) (h : α → β) :
    (f >>= fun a => .done (h a)).Asks due := by
  induction f generalizing due with
  | done a => trivial
  | refuse e => trivial
  | next slot read ih => exact ⟨asks.1, fun w => ih w (asks.2 w)⟩

/-! ### Readers of one word -/

/-- A reader reads one word for a place. The answers it can give are those that `R` allows, of which
there is one at most. -/
def ReadsWord (slot : Slot) (R : String → α → Prop) (f : Form α) : Prop :=
  ∃ read, f = .next slot read ∧
    ∀ w, (∃ a, read w = .done a ∧ ∀ b, R w b ↔ a = b) ∨ ∃ e, read w = .refuse e ∧ ∀ b, ¬R w b

theorem reads_word {R : String → α → Prop} {read : String → Except LineFault α}
    (answers : ∀ w a, read w = .ok a ↔ R w a) : (word slot read).ReadsWord slot R := by
  refine ⟨_, rfl, fun w => ?_⟩
  cases result : read w with
  | ok a => exact .inl ⟨a, rfl, fun b => by rw [← answers, result, Except.ok.injEq]⟩
  | error e => exact .inr ⟨e, rfl, fun b => by simp [← answers, result]⟩

theorem reads_oneOf {values : List α} {spell : α → String} (nodup : (values.map spell).Nodup) :
    (oneOf slot values spell).ReadsWord slot fun w a => a ∈ values ∧ w = spell a := by
  refine ⟨_, rfl, fun w => ?_⟩
  cases lookup : (values.map fun a => (spell a, done a)).lookup w with
  | none =>
    refine .inr ⟨.unknown slot, rfl, ?_⟩
    rintro a ⟨isValue, rfl⟩
    have other := List.lookup_eq_none_iff.1 lookup _ (List.mem_map_of_mem isValue)
    simp at other
  | some g =>
    obtain ⟨a, isValue, same⟩ := List.mem_map.1 (mem_of_lookup lookup)
    obtain ⟨rfl, rfl⟩ := Prod.mk.inj same
    refine .inl ⟨a, rfl, fun b => ?_⟩
    constructor
    · rintro ⟨isValue', spelling⟩
      exact List.inj_on_of_nodup_map nodup isValue isValue' spelling
    · rintro rfl
      exact ⟨isValue, rfl⟩

theorem ReadsWord.congr {R S : String → α → Prop} (reads : f.ReadsWord slot R)
    (same : ∀ w a, R w a ↔ S w a) : f.ReadsWord slot S := by
  obtain rfl : R = S := funext fun w => funext fun a => propext (same w a)
  exact reads

/-- After a word comes what is left to read. -/
theorem ReadsWord.run_bind {R : String → α → Prop} {g : α → Form β} {b : β}
    (reads : f.ReadsWord slot R) :
    (f >>= g).run ws = .ok b ↔ ∃ w rest a, ws = w :: rest ∧ R w a ∧ (g a).run rest = .ok b := by
  obtain ⟨read, rfl, answers⟩ := reads
  cases ws with
  | nil => simp [run]
  | cons w ws =>
    rcases answers w with ⟨a, answer, unique⟩ | ⟨e, refused, none⟩
    · simp [run, answer, unique]
    · simp [run, refused, none]

theorem ReadsWord.asks_bind {R : String → α → Prop} {g : α → Form β}
    {due : List String → Option Slot} (reads : f.ReadsWord slot R) (here : due [] = some slot)
    (rest : ∀ w a, (g a).Asks fun ws => due (w :: ws)) : (f >>= g).Asks due := by
  obtain ⟨read, rfl, answers⟩ := reads
  refine ⟨here, fun w => ?_⟩
  dsimp only
  rcases answers w with ⟨a, answer, -⟩ | ⟨e, refused, -⟩
  · rw [answer]
    exact rest w a
  · rw [refused]
    trivial

end Form

/-! ### The places of an instruction -/

/-- The places of the words that follow an opcode. -/
def operandSlots : String → List Slot
  | "sense" => [.gaze, .number .state, .number .state, .condition]
  | "mark" => [.marker, .number .state]
  | "unmark" => [.marker, .number .state]
  | "pickup" => [.number .state, .number .state]
  | "drop" => [.number .state]
  | "turn" => [.rotation, .number .state]
  | "move" => [.number .state, .number .state]
  | "flip" => [.number .odds, .number .state, .number .state]
  | _ => []

/-- The place of the word that comes after the given words of an instruction. A condition on a
marker has one word more than the others. -/
def slotAfter : List String → Option Slot
  | [] => some .opcode
  | ["sense", _, _, _, "marker"] => some .marker
  | opcode :: operands => (operandSlots opcode)[operands.length]?

theorem slotAfter_eq_opcode_iff {ws : List String} : slotAfter ws = some .opcode ↔ ws = [] := by
  have operand (opcode : String) : .opcode ∉ operandSlots opcode := by
    rw [operandSlots.eq_def]
    split <;> simp
  rw [slotAfter.eq_def]
  split
  · simp
  · simp
  · rename_i opcode operands _
    simpa using fun due => operand opcode (List.mem_of_getElem? due)

/-! ### Readers of the language -/

theorem Quantity.form_reads (q : Quantity) : q.form.ReadsWord (.number q) (Numeral q) :=
  Form.reads_word fun _ _ => read_eq_ok_iff

theorem Quantity.form_regular (q : Quantity) : q.form.Regular := by
  apply Form.regular_word
  case accepts =>
    have one : q.Allows (1 : Nat) := by
      cases q with
      | state => exact ⟨by decide, by decide⟩
      | odds => exact ⟨by decide, by decide⟩
    exact ⟨_, 1, read_eq_ok_iff.2 (numeral_repr one)⟩
  case refuses =>
    intro w e refused
    rw [read] at refused
    split at refused
    · cases refused
      exact .unknown _
    · split_ifs at refused with fractional small large
      · cases refused
        exact .fractional q
      · cases refused
        exact .tooSmall q
      · cases refused
        exact .unknown _
  case foreign => exact fun w foreign => q.read_of_not_glyphic foreign
  case number =>
    intro q' same w v
    cases same
    exact id

theorem Gaze.form_reads : Gaze.form.ReadsWord .gaze fun w gaze => w = gaze.word :=
  (Form.reads_oneOf words_nodup.1).congr fun w gaze => by cases gaze <;> simp [all]

theorem Rotation.form_reads :
    Rotation.form.ReadsWord .rotation fun w rotation => w = rotation.word :=
  (Form.reads_oneOf words_nodup.2.1).congr fun w rotation => by cases rotation <;> simp [all]

theorem Marker.form_reads : Marker.form.ReadsWord .marker fun w marker => w = Marker.word marker :=
  (Form.reads_oneOf words_nodup.2.2.1).congr fun w marker => by
    have mem : marker ∈ all := by
      revert marker
      decide
    simp [mem]

theorem Gaze.form_regular : Gaze.form.Regular :=
  Form.regular_oneOf (by simp) (by simp [all]) (by simp [all, word, Glyphic, isGlyph])

theorem Rotation.form_regular : Rotation.form.Regular :=
  Form.regular_oneOf (by simp) (by simp [all]) (by simp [all, word, Glyphic, isGlyph])

theorem Marker.form_regular : Marker.form.Regular :=
  Form.regular_oneOf (by simp) (by simp [all]) fun marker _ => glyphic_repr marker

theorem Condition.form_regular : Condition.form.Regular := by
  apply Form.regular_choice (by simp) (by simp)
  rw [List.forall_mem_cons]
  refine ⟨⟨by simp [Glyphic, isGlyph], Marker.form_regular.bind fun _ => trivial⟩, ?_⟩
  have glyphic : ∀ c ∈ plain, Glyphic c.word := by simp [plain, word, Glyphic, isGlyph]
  intro entry mem
  obtain ⟨c, isPlain, rfl⟩ := List.mem_map.1 mem
  exact ⟨glyphic c isPlain, trivial⟩

theorem Condition.form_asks {due : List String → Option Slot} (here : due [] = some .condition)
    (marker : due ["marker"] = some .marker) : Condition.form.Asks due := by
  apply Form.asks_choice here
  rw [List.forall_mem_cons]
  refine ⟨Marker.form_reads.asks_bind marker fun _ _ => trivial, ?_⟩
  intro entry mem
  obtain ⟨c, -, rfl⟩ := List.mem_map.1 mem
  trivial

namespace Instruction

/-- Reading an instruction is regular in all its places. -/
theorem form_regular : form.Regular := by
  have state {α : Type} {g : State → Form α} (rest : ∀ s, (g s).Regular) :
      (State.form >>= g).Regular :=
    Quantity.state.form_regular.bind rest
  have glyphic : ∀ entry ∈ opcodes, Glyphic entry.1 := by simp [opcodes, Glyphic, isGlyph]
  have operands : ∀ entry ∈ opcodes, entry.2.Regular := by
    simp only [opcodes, List.forall_mem_cons]
    refine ⟨?sense, ?mark, ?unmark, ?pickUp, ?drop, ?turn, ?move, ?flip, List.forall_mem_nil _⟩
    case sense =>
      exact Gaze.form_regular.bind fun _ => state fun _ => state fun _ =>
        Condition.form_regular.bind fun _ => trivial
    case mark => exact Marker.form_regular.bind fun _ => state fun _ => trivial
    case unmark => exact Marker.form_regular.bind fun _ => state fun _ => trivial
    case pickUp => exact state fun _ => state fun _ => trivial
    case drop => exact state fun _ => trivial
    case turn => exact Rotation.form_regular.bind fun _ => state fun _ => trivial
    case move => exact state fun _ => state fun _ => trivial
    case flip =>
      exact Quantity.odds.form_regular.bind fun _ => state fun _ => state fun _ => trivial
  exact Form.regular_choice (by simp) (by simp [opcodes]) fun entry mem =>
    ⟨glyphic entry mem, operands entry mem⟩

/-- An instruction is read from the words of its line, whichever sigmas they have. -/
theorem read_eq_run {line : List Char} {ws : List String} (has : HasWords line ws) :
    read line = form.run ws :=
  (form_regular.run_congr has.forall₂).symm

/-- Reading an instruction asks for its places in their order. -/
theorem form_asks : form.Asks slotAfter := by
  have state {α : Type} {g : State → Form α} {due : List String → Option Slot}
      (here : due [] = some (.number .state))
      (rest : ∀ w s, (g s).Asks fun ws => due (w :: ws)) : (State.form >>= g).Asks due :=
    Quantity.state.form_reads.asks_bind here rest
  apply Form.asks_choice rfl
  simp only [opcodes, List.forall_mem_cons]
  refine ⟨?sense, ?mark, ?unmark, ?pickUp, ?drop, ?turn, ?move, ?flip, List.forall_mem_nil _⟩
  case sense =>
    exact Gaze.form_reads.asks_bind rfl fun _ _ => state rfl fun _ _ => state rfl fun _ _ =>
      (Condition.form_asks rfl rfl).map _
  case mark => exact Marker.form_reads.asks_bind rfl fun _ _ => state rfl fun _ _ => trivial
  case unmark => exact Marker.form_reads.asks_bind rfl fun _ _ => state rfl fun _ _ => trivial
  case pickUp => exact state rfl fun _ _ => state rfl fun _ _ => trivial
  case drop => exact state rfl fun _ _ => trivial
  case turn => exact Rotation.form_reads.asks_bind rfl fun _ _ => state rfl fun _ _ => trivial
  case move => exact state rfl fun _ _ => state rfl fun _ _ => trivial
  case flip =>
    exact Quantity.odds.form_reads.asks_bind rfl fun _ _ => state rfl fun _ _ =>
      state rfl fun _ _ => trivial

end Instruction

end Formicary
