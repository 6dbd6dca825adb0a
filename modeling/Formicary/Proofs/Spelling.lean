/-
Module: Formicary.Proofs.Spelling
Purpose: The words of a line: what the case of its letters, its blanks and its comment do to them,
  and lines that are made of given words.
Main exports: Text.words_trim, Text.words_flatMap, Text.Lowered, HasWords, Glyphic, codeWords_intercalate
-/
import Mathlib
import Formicary.Brain.Line

namespace Formicary

namespace Text

/-! ### Words -/

/-- Words are separate where a blank stands. -/
theorem words_append_blank {c : Char} (blank : isBlank c) (a b : List Char) :
    words (a ++ c :: b) = words a ++ words b := by
  rw [words, List.splitOnP_append_cons a b blank, List.filter_append, List.map_append, words, words]

theorem words_cons_blank {c : Char} (blank : isBlank c) (cs : List Char) :
    words (c :: cs) = words cs :=
  words_append_blank blank [] cs

theorem words_dropWhile (cs : List Char) : words (cs.dropWhile isBlank) = words cs := by
  induction cs with
  | nil => rfl
  | cons c cs ih =>
    rw [List.dropWhile_cons]
    split
    · rename_i blank
      rw [ih, words_cons_blank blank]
    · rfl

theorem words_trimRight (cs : List Char) : words (trimRight cs) = words cs := by
  induction cs using List.reverseRecOn with
  | nil => rfl
  | append_singleton cs c ih =>
    rw [trimRight, List.reverse_concat', List.dropWhile_cons]
    split
    · rename_i blank
      have last : words (cs ++ [c]) = words cs ++ [] := words_append_blank blank cs []
      rw [last, List.append_nil, ← ih, trimRight]
    · simp

/-- The blanks around a text are part of none of its words. -/
theorem words_trim (cs : List Char) : words (trim cs) = words cs := by
  rw [trim, words_trimRight, words_dropWhile]

theorem words_of_solid {w : String} (nonempty : w ≠ "")
    (solid : ∀ c ∈ w.toList, isBlank c = false) : words w.toList = [w] := by
  have nonempty : w.toList ≠ [] := mt String.toList_eq_nil_iff.1 nonempty
  simp [words, List.splitOnP_eq_singleton solid, nonempty]

/-- Words with a blank between any two are read back. -/
theorem words_intercalate {ws : List String}
    (solid : ∀ w ∈ ws, w ≠ "" ∧ ∀ c ∈ w.toList, isBlank c = false) :
    words (" ".intercalate ws).toList = ws := by
  induction ws with
  | nil => rfl
  | cons w ws ih =>
    rw [List.forall_mem_cons] at solid
    obtain ⟨⟨nonempty, first⟩, rest⟩ := solid
    cases ws with
    | nil => rw [String.intercalate_singleton, words_of_solid nonempty first]
    | cons v ws =>
      have split : (" ".intercalate (w :: v :: ws)).toList =
          w.toList ++ ' ' :: (" ".intercalate (v :: ws)).toList := by
        simp
      rw [split, words_append_blank (by decide), words_of_solid nonempty first, ih rest]
      rfl

/-! ### Texts changed character by character -/

/-- A change of characters that keeps blanks and makes solid text of the others. -/
structure Gentle (f : Char → List Char) : Prop where
  blank : ∀ c, isBlank c → f c = [c]
  nonempty : ∀ c, f c ≠ []
  solid : ∀ c, isBlank c = false → ∀ d ∈ f c, isBlank d = false

theorem splitOnP_append_of_solid {p : Char → Bool} {xs : List Char} (solid : ∀ x ∈ xs, p x = false)
    (ys : List Char) : (xs ++ ys).splitOnP p = (ys.splitOnP p).modifyHead (xs ++ ·) := by
  induction xs with
  | nil => exact (congrFun List.modifyHead_id (ys.splitOnP p)).symm
  | cons x xs ih =>
    rw [List.forall_mem_cons] at solid
    rw [List.cons_append, List.splitOnP_cons_eq_if_modifyHead, solid.1, ih solid.2,
      List.modifyHead_modifyHead]
    rfl

theorem splitOnP_flatMap {f : Char → List Char} (gentle : Gentle f) (cs : List Char) :
    (cs.flatMap f).splitOnP isBlank = (cs.splitOnP isBlank).map (List.flatMap f) := by
  induction cs with
  | nil => rfl
  | cons c cs ih =>
    rw [List.flatMap_cons, List.splitOnP_cons_eq_if_modifyHead]
    cases blank : isBlank c with
    | true =>
      rw [gentle.blank c blank, List.singleton_append, List.splitOnP_cons_eq_if_modifyHead, blank,
        ih]
      rfl
    | false =>
      rw [splitOnP_append_of_solid (gentle.solid c blank), ih]
      cases cs.splitOnP isBlank <;> simp

/-- The words of a text that was changed gently are the words of the text, changed alike. -/
theorem words_flatMap {f : Char → List Char} (gentle : Gentle f) (cs : List Char) :
    words (cs.flatMap f) = (words cs).map fun w => String.ofList (w.toList.flatMap f) := by
  have empty (w : List Char) : (w.flatMap f).isEmpty = w.isEmpty := by
    cases w with
    | nil => rfl
    | cons c w => simp [gentle.nonempty c]
  simp only [words, splitOnP_flatMap gentle, List.filter_map, List.map_map, Function.comp_def,
    empty, String.toList_ofList]

/-! ### Lower case -/

/-- What holds of the first 128 characters is found by looking at each. -/
theorem forall_ascii {P : Char → Prop} (each : ∀ n < 128, P (Char.ofNat n)) {c : Char}
    (ascii : c.toNat < 0x80) : P c := by
  rw [← Char.ofNat_toNat c]
  exact each c.toNat ascii

/-- The numbers of the blanks. -/
def blankCodes : List Nat :=
  [9, 10, 11, 12, 13, 0x20, 0x85, 0xA0, 0x1680, 0x2000, 0x2001, 0x2002, 0x2003, 0x2004, 0x2005,
    0x2006, 0x2007, 0x2008, 0x2009, 0x200A, 0x2028, 0x2029, 0x202F, 0x205F, 0x3000]

theorem isBlank_iff {c : Char} : isBlank c ↔ c.toNat ∈ blankCodes := by
  simp only [isBlank, blankCodes, Bool.or_eq_true, Bool.and_eq_true, decide_eq_true_eq, beq_iff_eq,
    List.mem_cons, List.not_mem_nil, or_false]
  constructor
  · intro h
    omega
  · intro h
    omega

/-- No blank is a capital, nor is any the lower-case form of one. -/
theorem forall_run_not_blank :
    ∀ run ∈ capitalRuns, ∀ n ∈ blankCodes, ¬(run.1 ≤ n ∧ n ≤ run.2.1) ∧
      ¬(run.1 + run.2.2.2 ≤ (n : Int) ∧ (n : Int) ≤ run.2.1 + run.2.2.2) := by
  decide +kernel

theorem capitalShift_cases (n : Nat) :
    capitalShift n = 0 ∨ ∃ run ∈ capitalRuns,
      run.1 ≤ n ∧ n ≤ run.2.1 ∧ capitalShift n = run.2.2.2 := by
  rw [capitalShift]
  split
  · rename_i first last stride shift found
    have inside := List.find?_some found
    simp only [Bool.and_eq_true, decide_eq_true_eq] at inside
    split
    · exact .inr ⟨_, List.mem_of_find?_eq_some found, inside.1, inside.2, rfl⟩
    · exact .inl rfl
  · exact .inl rfl

/-- The lower-case form of a character is a blank only if the character is that blank. -/
theorem capitalShift_blank {n : Nat}
    (blank : n ∈ blankCodes ∨ (n + capitalShift n).toNat ∈ blankCodes) : capitalShift n = 0 := by
  rcases capitalShift_cases n with shift | ⟨run, isRun, first, last, shift⟩
  · exact shift
  · exfalso
    rcases blank with blank | blank
    · exact (forall_run_not_blank run isRun n blank).1 ⟨first, last⟩
    · have pos : (n + capitalShift n).toNat ≠ 0 := by
        intro zero
        rw [zero] at blank
        revert blank
        decide
      apply (forall_run_not_blank run isRun _ blank).2
      omega

theorem toLower_blank {c : Char} (ascii : c.toNat < 0x80) :
    isBlank c.toLower = isBlank c ∧ (isBlank c → c.toLower = c) :=
  forall_ascii (P := fun c => isBlank c.toLower = isBlank c ∧ (isBlank c → c.toLower = c))
    (by decide +kernel) ascii

theorem gentle_lowercaseChar : Gentle lowercaseChar := by
  constructor
  · intro c blank
    by_cases ascii : c.toNat < 0x80
    · rw [lowercaseChar, if_pos ascii, (toLower_blank ascii).2 blank]
    · rw [isBlank_iff] at blank
      have dotted : c.toNat ≠ 0x130 := by
        intro code
        rw [code] at blank
        revert blank
        decide
      rw [lowercaseChar, if_neg ascii, if_neg dotted, capitalShift_blank (.inl blank)]
      simp
  · intro c
    rw [lowercaseChar]
    split
    · simp
    · split <;> simp
  · intro c solid d isForm
    rw [lowercaseChar] at isForm
    split at isForm
    · rename_i ascii
      rw [List.mem_singleton.1 isForm, (toLower_blank ascii).1, solid]
    · split at isForm
      · rcases List.mem_pair.1 isForm with rfl | rfl <;> decide
      · rw [← Bool.not_eq_true, isBlank_iff] at solid ⊢
        rw [List.mem_singleton.1 isForm, Char.toNat_ofNat]
        intro blank
        split at blank
        · have shift := capitalShift_blank (.inr blank)
          rw [shift, Int.add_zero, Int.toNat_natCast] at blank
          exact solid blank
        · revert blank
          decide

/-- Characters beyond ASCII have no ASCII case. -/
theorem toLower_eq_self {c : Char} (foreign : ¬c.toNat < 0x80) : c.toLower = c := by
  apply Char.toLower_eq_of_not_isUpper
  intro upper
  rw [Char.isUpper, decide_eq_true_eq] at upper
  exact foreign (Nat.lt_of_le_of_lt (UInt32.le_iff_toNat_le.1 upper.2) (by decide))

/-- The case of an ASCII letter does not matter to its lower-case form. -/
theorem lowercaseChar_toLower (c : Char) : lowercaseChar c.toLower = lowercaseChar c := by
  by_cases ascii : c.toNat < 0x80
  · exact forall_ascii (P := fun c => lowercaseChar c.toLower = lowercaseChar c)
      (by decide +kernel) ascii
  · rw [toLower_eq_self ascii]

/-- A text in lower case. The capital sigma has two forms, one inside and one at the end of a word;
either may stand for it here. -/
inductive Lowered : List Char → List Char → Prop
  | nil : Lowered [] []
  | cons (c : Char) {cs low : List Char} (rest : Lowered cs low) :
    Lowered (c :: cs) (lowercaseChar c ++ low)
  | sigma {cs low : List Char} (rest : Lowered cs low) : Lowered ('Σ' :: cs) ('ς' :: low)

theorem lowered_lowercase (cs : List Char) : Lowered cs (lowercase cs) := by
  induction cs with
  | nil => exact .nil
  | cons c cs ih => exact .cons c ih

/-- A text with the two small sigmas made one. -/
def plainSigma (c : Char) : List Char := if c = 'ς' then ['σ'] else [c]

theorem gentle_plainSigma : Gentle plainSigma := by
  constructor
  · intro c blank
    rw [plainSigma, if_neg]
    rintro rfl
    revert blank
    decide
  · intro c
    rw [plainSigma]
    split <;> simp
  · intro c solid d isForm
    rw [plainSigma] at isForm
    split at isForm
    · rw [List.mem_singleton.1 isForm]
      decide
    · rw [List.mem_singleton.1 isForm, solid]

theorem Lowered.plainSigma {cs low : List Char} (lowered : Lowered cs low) :
    low.flatMap plainSigma = (lowercase cs).flatMap plainSigma := by
  induction lowered with
  | nil => rfl
  | cons c rest ih =>
    rw [lowercase, List.flatMap_cons, List.flatMap_append, ih, List.flatMap_append, lowercase]
  | sigma rest ih =>
    rw [lowercase, List.flatMap_cons, List.flatMap_cons, List.flatMap_append, ih, lowercase]
    rfl

end Text

open Text

/-! ### The words of a line -/

/-- The words of a line that count: those before the first semicolon, in lower case. -/
def HasWords (line : List Char) (ws : List String) : Prop :=
  ∃ low, Lowered (line.takeWhile (· ≠ ';')) low ∧ ws = words low

theorem hasWords_codeWords (line : List Char) : HasWords line (codeWords line) :=
  ⟨_, lowered_lowercase _, rfl⟩

theorem codeWords_map_toLower (line : List Char) :
    codeWords (line.map Char.toLower) = codeWords line := by
  have semicolon (c : Char) : c.toLower = ';' ↔ c = ';' := by
    by_cases ascii : c.toNat < 0x80
    · exact forall_ascii (P := fun c => c.toLower = ';' ↔ c = ';') (by decide +kernel) ascii
    · rw [toLower_eq_self ascii]
  have same : (fun c => lowercaseChar (Char.toLower c)) = lowercaseChar :=
    funext lowercaseChar_toLower
  simp only [codeWords, List.takeWhile_map, lowercase, List.flatMap_map, Function.comp_def, ne_eq,
    semicolon, same]

/-- The case of ASCII letters does not matter to the words of a line. -/
theorem codeWords_of_case {line line' : List Char}
    (same : line.map Char.toLower = line'.map Char.toLower) : codeWords line = codeWords line' := by
  rw [← codeWords_map_toLower, same, codeWords_map_toLower]

/-- A comment does not matter to the words of a line. -/
theorem codeWords_comment (line comment : List Char) :
    codeWords (line ++ ';' :: comment) = codeWords line := by
  have code : (line ++ ';' :: comment).takeWhile (· ≠ ';') = line.takeWhile (· ≠ ';') := by
    induction line with
    | nil => rfl
    | cons c line ih => simp only [List.cons_append, List.takeWhile_cons, ih]
  rw [codeWords, code, codeWords]

/-- The blanks between words do not matter, nor do those around them. -/
theorem codeWords_of_words {line line' : List Char}
    (same : words (line.takeWhile (· ≠ ';')) = words (line'.takeWhile (· ≠ ';'))) :
    codeWords line = codeWords line' := by
  simp only [codeWords, lowercase, words_flatMap gentle_lowercaseChar, same]

/-- The characters that words of the language are made of. -/
def isGlyph (c : Char) : Bool :=
  c.toNat < 0x80 && (c.isLower || c.isDigit || c == '+' || c == '-' || c == '.')

theorem isGlyph_facts {c : Char} (glyph : isGlyph c) :
    c.toNat < 0x80 ∧ c.toLower = c ∧ isBlank c = false ∧ c ≠ ';' ∧ c ≠ '\n' := by
  have ascii : c.toNat < 0x80 := of_decide_eq_true (Bool.and_eq_true_iff.1 glyph).1
  revert glyph
  exact forall_ascii (P := fun c => isGlyph c →
    c.toNat < 0x80 ∧ c.toLower = c ∧ isBlank c = false ∧ c ≠ ';' ∧ c ≠ '\n')
    (by decide +kernel) ascii

/-- A word that may stand in an instruction, as far as its characters go. -/
def Glyphic (w : String) : Prop := w ≠ "" ∧ ∀ c ∈ w.toList, isGlyph c

/-- Only a word itself differs from a word of glyphs in nothing but the sigmas. -/
theorem Glyphic.eq_of_plainSigma {w v : String} (glyphic : Glyphic w)
    (same : v.toList.flatMap plainSigma = w.toList.flatMap plainSigma) : v = w := by
  have plain : ∀ l : List Char, 'ς' ∉ l → l.flatMap plainSigma = l := by
    intro l absent
    induction l with
    | nil => rfl
    | cons c l ih =>
      rw [List.mem_cons, not_or] at absent
      rw [List.flatMap_cons, plainSigma, if_neg (Ne.symm absent.1), ih absent.2]
      rfl
  have foreign (c : Char) (mem : c ∈ w.toList) : c ≠ 'ς' ∧ c ≠ 'σ' := by
    have ascii := (isGlyph_facts (glyphic.2 c mem)).1
    constructor <;> rintro rfl <;> revert ascii <;> decide
  rw [plain w.toList fun mem => (foreign _ mem).1 rfl] at same
  have absent : 'ς' ∉ v.toList := by
    intro mem
    have image : 'σ' ∈ w.toList := by
      rw [← same, List.mem_flatMap]
      exact ⟨'ς', mem, by decide⟩
    exact (foreign _ image).2 rfl
  rw [plain v.toList absent] at same
  exact String.toList_inj.1 same

/-- Two choices of sigmas give the same words but for some that are not of glyphs. -/
theorem HasWords.forall₂ {line : List Char} {ws : List String} (has : HasWords line ws) :
    List.Forall₂ (fun w v => w = v ∨ ¬Glyphic w ∧ ¬Glyphic v) ws (codeWords line) := by
  obtain ⟨low, lowered, rfl⟩ := has
  have images := congrArg words lowered.plainSigma
  rw [words_flatMap gentle_plainSigma, words_flatMap gentle_plainSigma,
    ← List.forall₂_eq_eq_eq, List.forall₂_map_left_iff, List.forall₂_map_right_iff] at images
  apply images.imp
  intro w v same
  have same := String.ofList_injective same
  by_cases first : Glyphic w
  · exact .inl (first.eq_of_plainSigma same.symm).symm
  · by_cases second : Glyphic v
    · exact .inl (second.eq_of_plainSigma same)
    · exact .inr ⟨first, second⟩

/-- The characters of words with blanks between them. -/
theorem mem_intercalate {ws : List String} {c : Char} (mem : c ∈ (" ".intercalate ws).toList) :
    c = ' ' ∨ ∃ w ∈ ws, c ∈ w.toList := by
  induction ws with
  | nil => simp at mem
  | cons w ws ih =>
    cases ws with
    | nil => exact .inr ⟨w, by simp, by simpa using mem⟩
    | cons v ws =>
      rw [String.intercalate_cons_cons, String.toList_append, String.toList_append,
        List.mem_append, List.mem_append] at mem
      rcases mem with (mem | mem) | mem
      · exact .inr ⟨w, by simp, mem⟩
      · exact .inl (by simpa using mem)
      · rcases ih mem with blank | ⟨u, isWord, mem⟩
        · exact .inl blank
        · exact .inr ⟨u, List.mem_cons_of_mem w isWord, mem⟩

/-- The words of a line that is made of words of glyphs. -/
theorem codeWords_intercalate {ws : List String} (glyphic : ∀ w ∈ ws, Glyphic w) :
    codeWords (" ".intercalate ws).toList = ws := by
  have each : ∀ c ∈ (" ".intercalate ws).toList, (c.toNat < 0x80 ∧ c.toLower = c) ∧ c ≠ ';' := by
    intro c mem
    rcases mem_intercalate mem with rfl | ⟨w, isWord, mem⟩
    · decide
    · obtain ⟨ascii, lower, -, code, -⟩ := isGlyph_facts ((glyphic w isWord).2 c mem)
      exact ⟨⟨ascii, lower⟩, code⟩
  have code : (" ".intercalate ws).toList.takeWhile (· ≠ ';') = (" ".intercalate ws).toList := by
    apply List.takeWhile_eq_self_iff.2
    intro c mem
    exact decide_eq_true (each c mem).2
  rw [codeWords, code, lowercase_eq_self fun c mem => (each c mem).1, words_intercalate]
  intro w isWord
  exact ⟨(glyphic w isWord).1, fun c mem => (isGlyph_facts ((glyphic w isWord).2 c mem)).2.2.1⟩

end Formicary
