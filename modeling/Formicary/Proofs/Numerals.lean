/-
Module: Formicary.Proofs.Numerals
Purpose: Which words are numerals, and which number each of them stands for.
Main exports: Text.Decimal.Parts, Text.Decimal.read?_of_parts, Text.Decimal.exists_parts_of_read?,
  Numeral, Quantity.read_eq_ok_iff
-/
import Formicary.Proofs.Spelling

namespace Formicary

namespace Text.Decimal

/-- A text of the form `[+-]?[0-9]+(\.[0-9]*)?`, with its sign, its digits, and what follows
them. -/
structure Parts (cs sign digits tail : List Char) : Prop where
  text : cs = sign ++ (digits ++ tail)
  sign : sign = [] ∨ sign = ['+'] ∨ sign = ['-']
  nonempty : digits ≠ []
  digits : ∀ c ∈ digits, c.isDigit
  tail : tail = [] ∨ ∃ fraction, tail = '.' :: fraction ∧ ∀ c ∈ fraction, c.isDigit

/-- The integer before the point. -/
def integer (sign digits : List Char) : Int :=
  if sign = ['-'] then -(digitsValue digits : Int) else digitsValue digits

/-- Whether an integer fits a signed word of 64 bits. -/
def FitsWord (i : Int) : Prop := -2 ^ 63 ≤ i ∧ i < 2 ^ 63

instance (i : Int) : Decidable (FitsWord i) := inferInstanceAs (Decidable (_ ∧ _))

/-! ### The parts one by one -/

/-- A sign is split off, and nothing else. -/
theorem splitSign_spec (cs : List Char) :
    ∃ sign, cs = sign ++ (splitSign cs).2 ∧ (sign = [] ∨ sign = ['+'] ∨ sign = ['-']) ∧
      (splitSign cs).1 = decide (sign = ['-']) := by
  rw [splitSign.eq_def]
  split
  · exact ⟨['-'], by simp⟩
  · exact ⟨['+'], by simp⟩
  · exact ⟨[], by simp⟩

theorem splitSign_digits {digits tail : List Char} (nonempty : digits ≠ [])
    (isDigits : ∀ c ∈ digits, c.isDigit) :
    splitSign (digits ++ tail) = (false, digits ++ tail) := by
  obtain ⟨c, rest, rfl⟩ := List.exists_cons_of_ne_nil nonempty
  have digit := isDigits c List.mem_cons_self
  have minus : c ≠ '-' := by rintro rfl; revert digit; decide
  have plus : c ≠ '+' := by rintro rfl; revert digit; decide
  rw [List.cons_append, splitSign.eq_def]
  split
  · rename_i same
    exact absurd (List.cons.inj same).1 minus
  · rename_i same
    exact absurd (List.cons.inj same).1 plus
  · rfl

theorem splitSign_of_parts {cs sign digits tail : List Char} (parts : Parts cs sign digits tail) :
    splitSign cs = (decide (sign = ['-']), digits ++ tail) := by
  rw [parts.text]
  rcases parts.sign with rfl | rfl | rfl
  · rw [List.nil_append, splitSign_digits parts.nonempty parts.digits]
    rfl
  · rfl
  · rfl

theorem readFraction?_eq_some_iff {tail fraction : List Char} :
    readFraction? tail = some fraction ↔
      (tail = [] ∧ fraction = []) ∨ (tail = '.' :: fraction ∧ ∀ c ∈ fraction, c.isDigit) := by
  cases tail with
  | nil =>
    rw [readFraction?, Option.some.injEq]
    constructor
    · rintro rfl
      exact .inl ⟨rfl, rfl⟩
    · rintro (⟨-, rfl⟩ | ⟨point, -⟩)
      · rfl
      · cases point
  | cons c tail =>
    rw [readFraction?, Option.ite_none_right_eq_some, Bool.and_eq_true, decide_eq_true_eq,
      List.all_eq_true, Option.some.injEq]
    constructor
    · rintro ⟨⟨rfl, digits⟩, rfl⟩
      exact .inr ⟨rfl, digits⟩
    · rintro (⟨empty, -⟩ | ⟨same, digits⟩)
      · cases empty
      · obtain ⟨rfl, rfl⟩ := List.cons.inj same
        exact ⟨⟨rfl, digits⟩, rfl⟩

/-- Digits end where the tail begins. -/
theorem span_of_parts {cs sign digits tail : List Char} (parts : Parts cs sign digits tail) :
    (digits ++ tail).takeWhile Char.isDigit = digits ∧
      (digits ++ tail).dropWhile Char.isDigit = tail := by
  have stop : tail.takeWhile Char.isDigit = [] ∧ tail.dropWhile Char.isDigit = tail := by
    rcases parts.tail with rfl | ⟨fraction, rfl, -⟩
    · exact ⟨rfl, rfl⟩
    · exact ⟨rfl, rfl⟩
  rw [List.takeWhile_append_of_pos parts.digits, List.dropWhile_append_of_pos parts.digits, stop.1,
    stop.2, List.append_nil]
  exact ⟨rfl, rfl⟩

/-! ### The whole numeral -/

theorem read?_of_parts {cs sign digits tail : List Char} (parts : Parts cs sign digits tail) :
    read? cs = if FitsWord (integer sign digits) then
      some { whole := integer sign digits, fractional := tail.tail.any (· ≠ '0') } else none := by
  have fraction : readFraction? tail = some tail.tail := by
    rw [readFraction?_eq_some_iff]
    rcases parts.tail with rfl | ⟨fraction, rfl, isDigits⟩
    · exact .inl ⟨rfl, rfl⟩
    · exact .inr ⟨rfl, isDigits⟩
  have some : digits.isEmpty = false := List.isEmpty_eq_false_iff.2 parts.nonempty
  have whole : signed (decide (sign = ['-'])) (digitsValue digits) = integer sign digits := by
    simp [signed, integer]
  obtain ⟨before, after⟩ := span_of_parts parts
  rw [read?, splitSign_of_parts parts]
  have fits : (integer sign digits < Int64.minValue.toInt ∨
      Int64.maxValue.toInt < integer sign digits) ↔ ¬FitsWord (integer sign digits) := by
    rw [FitsWord, show Int64.minValue.toInt = -2 ^ 63 from rfl,
      show Int64.maxValue.toInt = 2 ^ 63 - 1 from rfl]
    omega
  simp only [before, after, fraction, Option.bind_eq_bind, Option.bind_some, some, whole,
    Bool.false_eq_true, if_false, Bool.or_eq_true, decide_eq_true_eq, fits, ite_not]

theorem exists_parts_of_read? {cs : List Char} {d : Decimal} (read : read? cs = some d) :
    ∃ sign digits tail, Parts cs sign digits tail := by
  obtain ⟨sign, text, isSign, -⟩ := splitSign_spec cs
  simp only [read?, Option.bind_eq_bind, Option.bind_eq_some_iff] at read
  obtain ⟨fraction, tail, rest⟩ := read
  refine ⟨sign, (splitSign cs).2.takeWhile Char.isDigit, (splitSign cs).2.dropWhile Char.isDigit,
    ?_, isSign, ?_, fun c mem => List.mem_takeWhile_imp mem, ?_⟩
  · rw [List.takeWhile_append_dropWhile]
    exact text
  · intro empty
    simp [empty] at rest
  · rcases readFraction?_eq_some_iff.1 tail with ⟨none, -⟩ | ⟨point, isDigits⟩
    · exact .inl none
    · exact .inr ⟨fraction, point, isDigits⟩

/-- Numerals have no other characters than those of words in instructions. -/
theorem Parts.isGlyph {cs sign digits tail : List Char} (parts : Parts cs sign digits tail) :
    cs ≠ [] ∧ ∀ c ∈ cs, isGlyph c := by
  have digit {c : Char} (isDigit : c.isDigit) : Formicary.isGlyph c := by
    have ascii : c.toNat < 0x80 := by
      rw [Char.isDigit, Bool.and_eq_true, decide_eq_true_eq, decide_eq_true_eq] at isDigit
      exact Nat.lt_of_le_of_lt (UInt32.le_iff_toNat_le.1 isDigit.2) (by decide)
    simp [Formicary.isGlyph, ascii, isDigit]
  constructor
  · rw [parts.text]
    simp [parts.nonempty]
  · intro c mem
    rw [parts.text, List.mem_append, List.mem_append] at mem
    rcases mem with isSign | isDigit | follows
    · rcases parts.sign with rfl | rfl | rfl
      · cases isSign
      · rw [List.mem_singleton.1 isSign]
        decide
      · rw [List.mem_singleton.1 isSign]
        decide
    · exact digit (parts.digits c isDigit)
    · rcases parts.tail with rfl | ⟨fraction, rfl, digits⟩
      · cases follows
      · rcases List.mem_cons.1 follows with rfl | isDigit
        · decide
        · exact digit (digits c isDigit)

end Text.Decimal

open Text Text.Decimal

/-! ### Numbers of an instruction -/

/-- The numbers that an instruction may have: states are less than `2 ^ 63`, and odds are at least
one and less than `2 ^ 32`. -/
def Quantity.Allows : Quantity → Int → Prop
  | .state, i => 0 ≤ i ∧ i ≤ 2 ^ 63 - 1
  | .odds, i => 1 ≤ i ∧ i ≤ 2 ^ 32 - 1

/-- A word stands for a number: it has the form of a numeral, no digit but zero after the point, and
the integer before the point is the number and allowed in its place. -/
def Numeral (q : Quantity) (w : String) (n : Nat) : Prop :=
  ∃ sign digits tail, Parts w.toList sign digits tail ∧ (∀ c ∈ tail.tail, c = '0') ∧
    integer sign digits = n ∧ q.Allows n

namespace Quantity

/-- Which number a numeral gives, or why it gives none. -/
theorem read_of_parts (q : Quantity) {w : String} {sign digits tail : List Char}
    (parts : Parts w.toList sign digits tail) :
    q.read w =
      if FitsWord (integer sign digits) then
        if ∀ c ∈ tail.tail, c = '0' then
          if integer sign digits < q.least then .error (.tooSmall q)
          else if integer sign digits < q.limit then .ok (integer sign digits).toNat
          else .error (.unknown (.number q))
        else .error (.fractional q)
      else .error (.unknown (.number q)) := by
  rw [read, read?_of_parts parts]
  by_cases fits : FitsWord (integer sign digits)
  · by_cases zeros : ∀ c ∈ tail.tail, c = '0'
    · have whole : (tail.tail.any (· ≠ '0')) = false := by
        simpa using zeros
      simp only [if_pos fits, if_pos zeros, whole, Bool.false_eq_true, if_false]
    · have fractional : (tail.tail.any (· ≠ '0')) = true := by
        simpa using zeros
      simp only [if_pos fits, if_neg zeros, fractional, if_true]
  · simp only [if_neg fits]

/-- What is no numeral is no number. -/
theorem read_of_no_parts (q : Quantity) {w : String}
    (none : ¬∃ sign digits tail, Parts w.toList sign digits tail) :
    q.read w = .error (.unknown (.number q)) := by
  have unread : Decimal.read? w.toList = .none := by
    rw [← Option.not_isSome_iff_eq_none, Option.isSome_iff_exists]
    rintro ⟨numeral, found⟩
    exact none (exists_parts_of_read? found)
  rw [read, unread]

theorem allows_iff {q : Quantity} {i : Int} :
    q.Allows i ↔ FitsWord i ∧ q.least ≤ i ∧ i < q.limit := by
  cases q with
  | state =>
    rw [Allows, FitsWord, least, limit, UInt64.size]
    omega
  | odds =>
    rw [Allows, FitsWord, least, limit, UInt32.size]
    omega

/-- A number is read from just the words that stand for it. -/
theorem read_eq_ok_iff {q : Quantity} {w : String} {n : Nat} :
    q.read w = .ok n ↔ Numeral q w n := by
  by_cases numeral : ∃ sign digits tail, Parts w.toList sign digits tail
  · constructor
    · intro isRead
      obtain ⟨sign, digits, tail, parts⟩ := numeral
      rw [q.read_of_parts parts] at isRead
      split_ifs at isRead with fits zeros small large
      have value := Except.ok.inj isRead
      have allowed : q.Allows (integer sign digits) :=
        allows_iff.2 ⟨fits, Int.not_lt.1 small, large⟩
      have pos : 0 ≤ integer sign digits := by
        cases q with
        | state => exact allowed.1
        | odds => exact Int.le_trans (by decide) allowed.1
      have whole : integer sign digits = n := by omega
      exact ⟨sign, digits, tail, parts, zeros, whole, whole ▸ allowed⟩
    · rintro ⟨sign, digits, tail, parts, zeros, value, allowed⟩
      obtain ⟨fits, least, limit⟩ := allows_iff.1 allowed
      rw [q.read_of_parts parts, value, if_pos fits, if_pos zeros, if_neg (Int.not_lt.2 least),
        if_pos limit, Int.toNat_natCast]
  · rw [q.read_of_no_parts numeral]
    constructor
    · intro isRead
      cases isRead
    · rintro ⟨sign, digits, tail, parts, -⟩
      exact absurd ⟨sign, digits, tail, parts⟩ numeral

/-- A word with a character that has no place in an instruction is no number. -/
theorem read_of_not_glyphic (q : Quantity) {w : String} (foreign : ¬Glyphic w) :
    q.read w = .error (.unknown (.number q)) := by
  apply read_of_no_parts
  rintro ⟨sign, digits, tail, parts⟩
  obtain ⟨nonempty, glyphs⟩ := parts.isGlyph
  exact foreign ⟨mt String.toList_eq_nil_iff.2 nonempty, glyphs⟩

end Quantity

/-- A number in decimal digits has no sign and no point. -/
theorem parts_repr (n : Nat) : Parts (Nat.repr n).toList [] (Nat.toDigits 10 n) [] where
  text := by rw [Nat.toList_repr, List.nil_append, List.append_nil]
  sign := .inl rfl
  nonempty := Nat.toDigits_ne_nil
  digits c mem := Nat.isDigit_of_mem_toDigits (by decide) (by decide) mem
  tail := .inl rfl

theorem glyphic_repr (n : Nat) : Glyphic (Nat.repr n) := by
  obtain ⟨nonempty, glyphs⟩ := (parts_repr n).isGlyph
  exact ⟨mt String.toList_eq_nil_iff.2 nonempty, glyphs⟩

/-- A number in decimal digits stands for itself. -/
theorem numeral_repr {q : Quantity} {n : Nat} (allowed : q.Allows n) :
    Numeral q (Nat.repr n) n := by
  refine ⟨[], Nat.toDigits 10 n, [], parts_repr n, by simp, ?value, allowed⟩
  case value =>
    rw [integer, if_neg (by decide), digitsValue, Nat.ofDigitChars_ten_toDigits]

end Formicary
