/-
Module: Formicary.Proofs.FirstFault
Purpose: What becomes of the text of a brain: a brain whose instructions are those of the lines, or
  the first fault, where lines that cannot be read go before states that are out of range.
Main exports: stateWords, Instruction.map_stateWords_of_read, InRange, FirstFault, SelfContained,
  Brain.firstFault_cases, Brain.read_eq_error_iff, Brain.selfContained_of_read,
  Brain.first_fault_reported
-/
import Formicary.Proofs.Source

namespace Formicary

open Text

/-! ### The states of a line -/

/-- The words of a line that stand where a state is due, in their order. -/
def stateWords (ws : List String) : List String :=
  (ws.inits.zip ws).filterMap fun (front, w) =>
    if slotAfter front = some (.number .state) then some w else none

theorem Condition.Derives.stateWords {c : List String} {condition : Condition}
    (derives : Condition.Derives c condition) (d t f : String) :
    stateWords (["sense", d, t, f] ++ c) = [t, f] := by
  cases derives <;> simp [Formicary.stateWords, slotAfter, operandSlots]

namespace Instruction

/-- The states that an instruction may lead to are those that its words name, in the same order. -/
theorem Derives.map_stateWords {ws : List String} {i : Instruction} (derives : Derives ws i) :
    (stateWords ws).map Quantity.state.read = i.successors.map .ok := by
  cases derives with
  | sense named first second asked =>
    rw [asked.stateWords]
    simp [successors, Quantity.read_eq_ok_iff.2 first, Quantity.read_eq_ok_iff.2 second]
  | mark named first | unmark named first | drop first | turn named first =>
    simp [stateWords, slotAfter, operandSlots, successors, Quantity.read_eq_ok_iff.2 first]
  | pickUp first second | move first second | flip chance first second =>
    simp [stateWords, slotAfter, operandSlots, successors, Quantity.read_eq_ok_iff.2 first,
      Quantity.read_eq_ok_iff.2 second]

theorem map_stateWords_of_read {line : List Char} {i : Instruction} (isRead : read line = .ok i) :
    (stateWords (codeWords line)).map Quantity.state.read = i.successors.map .ok :=
  Derives.map_stateWords (run_eq_ok_iff.1 isRead)

end Instruction

/-- A line leads to no state but the first `size`. -/
def InRange (size : Nat) (line : List Char) : Prop :=
  ∀ w ∈ stateWords (codeWords line), ∃ s < size, Numeral .state w s

/-- The first state out of range that a line leads to. -/
def Strays (size : Nat) (line : List Char) (s : State) : Prop :=
  ∃ front w back, stateWords (codeWords line) = front ++ w :: back ∧
    (∀ v ∈ front, ∃ t < size, Numeral .state v t) ∧ Numeral .state w s ∧ size ≤ s

/-- Words that name states are in range if the states are. -/
theorem forall_stateWord_iff {ws : List String} {states : List State}
    (named : ws.map Quantity.state.read = states.map .ok) {size : Nat} :
    (∀ w ∈ ws, ∃ s < size, Numeral .state w s) ↔ ∀ s ∈ states, s < size := by
  constructor
  · intro inRange s leads
    have mem : Except.ok s ∈ ws.map Quantity.state.read := named ▸ List.mem_map_of_mem leads
    obtain ⟨w, isWord, value⟩ := List.mem_map.1 mem
    obtain ⟨t, small, numeral⟩ := inRange w isWord
    rw [Quantity.read_eq_ok_iff.2 numeral, Except.ok.injEq] at value
    exact value ▸ small
  · intro small w isWord
    have mem : Quantity.state.read w ∈ states.map .ok := named ▸ List.mem_map_of_mem isWord
    obtain ⟨s, leads, value⟩ := List.mem_map.1 mem
    exact ⟨s, small s leads, Quantity.read_eq_ok_iff.1 value.symm⟩

section Range

variable {line : List Char} {i : Instruction} (isRead : Instruction.read line = .ok i) {size : Nat}

include isRead

theorem inRange_iff : InRange size line ↔ ∀ s ∈ i.successors, s < size :=
  forall_stateWord_iff (Instruction.map_stateWords_of_read isRead)

theorem strays_iff {s : State} : Strays size line s ↔ Brain.strayState? size i = some s := by
  have named := Instruction.map_stateWords_of_read isRead
  rw [Brain.strayState?, List.find?_eq_some_iff_append, decide_eq_true_eq]
  constructor
  · rintro ⟨front, w, back, split, small, numeral, large⟩
    rw [split, List.map_append, List.map_cons, eq_comm, List.map_eq_append_iff] at named
    obtain ⟨as, _, successors, before, rest⟩ := named
    obtain ⟨t, bs, rfl, here, -⟩ := List.map_eq_cons_iff.1 rest
    rw [Quantity.read_eq_ok_iff.2 numeral, Except.ok.injEq] at here
    refine ⟨large, as, bs, here ▸ successors, fun a mem => ?_⟩
    simpa using (forall_stateWord_iff before.symm).1 small a mem
  · rintro ⟨large, as, bs, successors, before⟩
    rw [successors, List.map_append, List.map_cons, List.map_eq_append_iff] at named
    obtain ⟨front, _, split, same, rest⟩ := named
    obtain ⟨w, back, rfl, here, -⟩ := List.map_eq_cons_iff.1 rest
    refine ⟨front, w, back, split, (forall_stateWord_iff same).2 fun a mem => ?_,
      Quantity.read_eq_ok_iff.1 here, large⟩
    simpa using before a mem

theorem inRange_or_strays : InRange size line ∨ ∃ s, Strays size line s := by
  cases stray : Brain.strayState? size i with
  | none => exact .inl ((inRange_iff isRead).2 (Brain.strayState?_eq_none.1 stray))
  | some s => exact .inr ⟨s, (strays_iff isRead).2 stray⟩

end Range

/-! ### The first fault of a text -/

/-- What the lines of a brain are refused for. As long as a line cannot be read, no state counts. -/
inductive FirstFault (lines : List (List Char)) : BrainFault → Prop
  | unread (front : List (List Char)) (line : List Char) (back : List (List Char)) (e : LineFault)
    (split : lines = front ++ line :: back)
    (before : ∀ l ∈ front, ∃ i, Instruction.read l = .ok i)
    (fault : Instruction.read line = .error e) :
    FirstFault lines (.line (front.length + 1) (String.ofList line) e)
  | stray (front : List (List Char)) (line : List Char) (back : List (List Char)) (s : State)
    (split : lines = front ++ line :: back)
    (readable : ∀ l ∈ lines, ∃ i, Instruction.read l = .ok i)
    (before : ∀ l ∈ front, InRange lines.length l) (strays : Strays lines.length line s) :
    FirstFault lines
      (.line (front.length + 1) (String.ofList line) (.stateOutOfRange s lines.length))

/-- Each line is an instruction, and none of them leads out of the lines. -/
def SelfContained (lines : List (List Char)) : Prop :=
  ∀ line ∈ lines, ∃ i, Instruction.read line = .ok i ∧ ∀ s ∈ i.successors, s < lines.length

namespace Brain

theorem firstFault_cases (lines : List (List Char)) :
    (∃ fault, FirstFault lines fault) ∨ SelfContained lines := by
  by_cases readable : ∀ l ∈ lines, ∃ i, Instruction.read l = .ok i
  case neg =>
    push Not at readable
    obtain ⟨front, line, back, split, before, unread⟩ :=
      exists_first_not (P := fun l => ∃ i, Instruction.read l = .ok i) (by simpa using readable)
    cases fault : Instruction.read line with
    | ok i => exact absurd ⟨i, fault⟩ unread
    | error e => exact .inl ⟨_, .unread front line back e split before fault⟩
  case pos =>
    by_cases inRange : ∀ l ∈ lines, InRange lines.length l
    case neg =>
      push Not at inRange
      obtain ⟨front, line, back, split, before, out⟩ :=
        exists_first_not (P := InRange lines.length) (by simpa using inRange)
      obtain ⟨i, isRead⟩ := readable line (by simp [split])
      obtain ⟨s, strays⟩ := (inRange_or_strays isRead).resolve_left out
      exact .inl ⟨_, .stray front line back s split readable before strays⟩
    case pos =>
      refine .inr fun line mem => ?_
      obtain ⟨i, isRead⟩ := readable line mem
      exact ⟨i, isRead, (inRange_iff isRead).1 (inRange line mem)⟩

/-! ### The fate of a text -/

theorem exists_readings {lines : List (List Char)}
    (readable : ∀ line ∈ lines, ∃ i, Instruction.read line = .ok i) :
    ∃ is, Readings lines is :=
  exists_forall₂_iff.2 readable

theorem exists_line_of_readings {lines : List (List Char)} {is : List Instruction}
    (readings : Readings lines is) {i : Instruction} (mem : i ∈ is) :
    ∃ line ∈ lines, Instruction.read line = .ok i := by
  obtain ⟨n, inside, rfl⟩ := List.getElem_of_mem mem
  have isLine : n < lines.length := readings.length_eq ▸ inside
  exact ⟨lines[n], List.getElem_mem isLine, readings.get isLine inside⟩

theorem sourceLines_ne_nil (source : String) : sourceLines source ≠ [] :=
  List.splitOn_ne_nil '\n' (trimRight source.toList)

/-- Assembly fails at the first instruction that leads out of the list. -/
theorem assemble_of_stray {lines : List (String × Instruction)} {n : Nat} {s : State}
    (stray : stray? (lines.map Prod.snd) = some (n, s)) :
    assemble lines =
      .error (.line (n + 1) ((lines.map Prod.fst)[n]?.getD "")
        (.stateOutOfRange s lines.length)) := by
  simp only [assemble, List.length_map]
  split
  · rename_i empty
    rw [empty] at stray
    cases stray
  · split
    · rename_i closed
      rw [stray] at closed
      cases closed
      rfl
    · rename_i closed
      rw [stray] at closed
      cases closed

section Readings

variable {source : String} {is : List Instruction} (readings : Readings (sourceLines source) is)

include readings

theorem map_zip_readings :
    (((sourceLines source).map String.ofList).zip is).map Prod.fst =
        (sourceLines source).map String.ofList ∧
      (((sourceLines source).map String.ofList).zip is).map Prod.snd = is := by
  have length : ((sourceLines source).map String.ofList).length = is.length := by
    rw [List.length_map, readings.length_eq]
  exact ⟨List.map_fst_zip length.le, List.map_snd_zip length.ge⟩

/-- Instructions that stay among themselves make a brain. -/
theorem read_of_sound (sound : ∀ i ∈ is, ∀ s ∈ i.successors, s < is.length) :
    ∃ b, read source = .ok b ∧ b.instructions = is.toArray := by
  obtain ⟨-, instructions⟩ := map_zip_readings readings
  rw [read_of_readings readings]
  cases made : assemble (((sourceLines source).map String.ofList).zip is) with
  | ok b =>
    refine ⟨b, rfl, ?_⟩
    rw [instructions_of_assemble made, instructions]
  | error e =>
    rcases fault_of_assemble made with ⟨empty, -⟩ | ⟨n, text, i, s, here, leads, out, -⟩
    · rw [empty, List.map_nil] at instructions
      rw [← instructions] at readings
      exact absurd (List.forall₂_nil_right_iff.1 readings) (sourceLines_ne_nil source)
    · have mem := List.mem_map_of_mem (f := Prod.snd) (List.mem_of_getElem? here)
      rw [← List.length_map (f := Prod.snd), instructions] at out
      rw [instructions] at mem
      exact absurd (sound i mem s leads) out.not_gt

/-- An instruction that leads astray is refused with the text of its line. -/
theorem read_of_stray {n : Nat} {line : List Char} {s : State}
    (here : (sourceLines source)[n]? = some line) (stray : stray? is = some (n, s)) :
    read source = .error
      (.line (n + 1) (String.ofList line) (.stateOutOfRange s (sourceLines source).length)) := by
  obtain ⟨texts, instructions⟩ := map_zip_readings readings
  rw [read_of_readings readings, assemble_of_stray (instructions.symm ▸ stray), texts,
    List.getElem?_map, here, ← List.length_map (f := Prod.snd), instructions, readings.length_eq]
  rfl

end Readings

theorem read_of_firstFault {source : String} {fault : BrainFault}
    (first : FirstFault (sourceLines source) fault) : read source = .error fault := by
  cases first with
  | unread front line back e split before fault => exact read_of_unread split before fault
  | stray front line back s split readable before strays =>
    have readableHere := readable
    simp only [split, List.forall_mem_append, List.forall_mem_cons] at readableHere
    obtain ⟨readableFront, ⟨i, isRead⟩, readableBack⟩ := readableHere
    obtain ⟨is, earlier⟩ := exists_readings readableFront
    obtain ⟨js, later⟩ := exists_readings readableBack
    have readings : Readings (sourceLines source) (is ++ i :: js) :=
      split ▸ List.rel_append earlier (.cons isRead later)
    apply read_of_stray readings (by simp [split])
    rw [stray?_eq_some_iff, ← readings.length_eq]
    refine ⟨is, i, js, rfl, earlier.length_eq.symm, (strays_iff isRead).1 strays, ?_⟩
    intro j mem
    obtain ⟨l, inFront, isReadHere⟩ := exists_line_of_readings earlier mem
    exact strayState?_eq_none.2 ((inRange_iff isReadHere).1 (before l inFront))

/-- Lines that are all instructions, none of which leads out of the text, make a brain of them. -/
theorem exists_brain_of_selfContained {source : String}
    (sound : SelfContained (sourceLines source)) :
    ∃ b, read source = .ok b ∧ Readings (sourceLines source) b.instructions.toList := by
  obtain ⟨is, readings⟩ := exists_readings fun line mem => (sound line mem).imp fun _ => And.left
  have closed : ∀ i ∈ is, ∀ s ∈ i.successors, s < is.length := by
    intro i mem
    obtain ⟨line, isLine, isRead⟩ := exists_line_of_readings readings mem
    obtain ⟨j, isReadSo, inside⟩ := sound line isLine
    rw [isRead, Except.ok.injEq] at isReadSo
    rw [isReadSo, ← readings.length_eq]
    exact inside
  obtain ⟨b, made, same⟩ := read_of_sound readings closed
  exact ⟨b, made, by rwa [same]⟩

/-- The fault of a text is the first of its lines. -/
theorem read_eq_error_iff {source : String} {fault : BrainFault} :
    read source = .error fault ↔ FirstFault (sourceLines source) fault := by
  refine ⟨fun failed => ?_, read_of_firstFault⟩
  rcases firstFault_cases (sourceLines source) with ⟨first, isFirst⟩ | sound
  · rw [read_of_firstFault isFirst, Except.error.injEq] at failed
    exact failed ▸ isFirst
  · obtain ⟨b, made, -⟩ := exists_brain_of_selfContained sound
    rw [made] at failed
    cases failed

/-- The brain of a text is that of the instructions of its lines, none of which leads out of it. -/
theorem selfContained_of_read {source : String} {b : Brain} (made : read source = .ok b) :
    SelfContained (sourceLines source) ∧ Readings (sourceLines source) b.instructions.toList := by
  rcases firstFault_cases (sourceLines source) with ⟨fault, isFirst⟩ | sound
  · rw [read_of_firstFault isFirst] at made
    cases made
  · obtain ⟨b', made', readings⟩ := exists_brain_of_selfContained sound
    rw [made, Except.ok.injEq] at made'
    exact ⟨sound, made' ▸ readings⟩

theorem read_append_blanks (source : String) {blanks : String}
    (blank : ∀ c ∈ blanks.toList, isBlank c) : read (source ++ blanks) = read source := by
  rw [read, sourceLines, String.toList_append, trimRight_append_blanks _ blank]
  rfl

/-- A text is read as a brain if each of its lines is an instruction and none of them leads out of
the text; there is at least one line, and the state of an instruction is the number of its line.
Any other text is refused for a line. That line is the first that is no instruction, also where a
line before it leads out of the text. If there is none such, it is the first that leads out of the
text, with the first state that does so. Blanks at the end of a text make no difference. -/
theorem first_fault_reported (source : String) :
    1 ≤ (sourceLines source).length ∧
      ((∃ b, read source = .ok b) ↔ SelfContained (sourceLines source)) ∧
      (∀ b, read source = .ok b → b.size = (sourceLines source).length ∧
        ∀ n line, (sourceLines source)[n]? = some line →
          ∃ i, b.get? n = some i ∧ Instruction.read line = .ok i) ∧
      (∀ fault, read source = .error fault ↔ FirstFault (sourceLines source) fault) ∧
      read source ≠ .error .empty ∧
      ∀ blanks : String, (∀ c ∈ blanks.toList, isBlank c) →
        read (source ++ blanks) = read source := by
  refine ⟨?lines, ⟨?sound, ?accepted⟩, ?brain, fun _ => read_eq_error_iff, ?never,
    fun _ => read_append_blanks source⟩
  case lines => exact List.length_pos_iff.2 (sourceLines_ne_nil source)
  case sound => exact fun ⟨b, made⟩ => (selfContained_of_read made).1
  case accepted =>
    intro sound
    obtain ⟨b, made, -⟩ := exists_brain_of_selfContained sound
    exact ⟨b, made⟩
  case brain =>
    intro b made
    have readings := (selfContained_of_read made).2
    refine ⟨readings.length_eq.symm, fun n line here => ?_⟩
    obtain ⟨inside, rfl⟩ := List.getElem?_eq_some_iff.1 here
    have isState : n < b.instructions.size := inside.trans_eq readings.length_eq
    exact ⟨b.instructions[n], Array.getElem?_eq_getElem isState, readings.get inside isState⟩
  case never =>
    rw [ne_eq, read_eq_error_iff]
    exact nofun

/-- A line that is no instruction is reported although the line before it leads out of the text, and
the line feeds after it do not count. Where all lines are instructions, the first of two states that
are out of range is reported. -/
theorem unread_goes_before_astray :
    (∀ c ∈ "\r\n\n".toList, isBlank c) ∧
      read ("drop 9\nfly" ++ "\r\n\n") = .error (.line 2 "fly" (.unknown .opcode)) ∧
      read "drop 1\nflip 2 9 5 ; out" =
        .error (.line 2 "flip 2 9 5 ; out" (.stateOutOfRange 9 2)) := by
  have blank : ∀ c ∈ "\r\n\n".toList, isBlank c := by simp [isBlank]
  obtain ⟨-, -, -, flying, -, blanks⟩ := first_fault_reported "drop 9\nfly"
  obtain ⟨-, -, -, astray, -⟩ := first_fault_reported "drop 1\nflip 2 9 5 ; out"
  refine ⟨blank, (blanks _ blank).trans ((flying _).2 ?unread), (astray _).2 ?stray⟩
  case unread =>
    have before : ∃ i, Instruction.read "drop 9".toList = .ok i := ⟨.drop 9, by decide⟩
    exact .unread ["drop 9".toList] "fly".toList [] _ (by cbv) (List.forall_mem_singleton.2 before)
      (by decide)
  case stray =>
    have first : Instruction.read "drop 1".toList = .ok (.drop 1) := by decide
    have second : Instruction.read "flip 2 9 5 ; out".toList = .ok (.flip 2 9 5) := by decide
    have lines : sourceLines "drop 1\nflip 2 9 5 ; out" =
        ["drop 1".toList, "flip 2 9 5 ; out".toList] := by cbv
    have inside : InRange 2 "drop 1".toList := (inRange_iff first).2 (by decide)
    have out : Strays 2 "flip 2 9 5 ; out".toList 9 := (strays_iff second).2 (by decide)
    rw [lines]
    exact .stray ["drop 1".toList] "flip 2 9 5 ; out".toList [] 9 rfl
      (List.forall_mem_cons.2 ⟨⟨_, first⟩, List.forall_mem_singleton.2 ⟨_, second⟩⟩)
      (List.forall_mem_singleton.2 inside) out

end Brain

end Formicary
