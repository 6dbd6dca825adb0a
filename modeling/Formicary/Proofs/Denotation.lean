/-
Module: Formicary.Proofs.Denotation
Purpose: The rational number that a numeral denotes, and how it decides what a number of an
  instruction is read as.
Main exports: Text.Decimal.rational, Text.Decimal.Denotes, Text.Decimal.rational_eq_intCast_iff,
  Text.Decimal.read?_isSome_iff, Quantity.Sorted, Quantity.sorted_of_denotes,
  Quantity.numbers_sorted_by_value
-/
import Mathlib
import Formicary.Proofs.Numerals

namespace Formicary

namespace Text

/-! ### Digits after a point -/

theorem digit_lt_ten {c : Char} (digit : c.isDigit) : c.toNat - '0'.toNat < 10 := by
  rw [Char.isDigit, Bool.and_eq_true, decide_eq_true_eq, decide_eq_true_eq] at digit
  have atMost : c.toNat ≤ '9'.toNat := UInt32.le_iff_toNat_le.1 digit.2
  have nine : '9'.toNat = 57 := rfl
  have zero : '0'.toNat = 48 := rfl
  omega

theorem digit_eq_zero_iff {c : Char} (digit : c.isDigit) : c.toNat - '0'.toNat = 0 ↔ c = '0' := by
  constructor
  · intro least
    rw [Char.isDigit, Bool.and_eq_true, decide_eq_true_eq, decide_eq_true_eq] at digit
    have atLeast : '0'.toNat ≤ c.toNat := UInt32.le_iff_toNat_le.1 digit.1
    exact Char.toNat_inj.1 (by omega)
  · rintro rfl
    rfl

theorem digitsValue_cons (c : Char) (cs : List Char) :
    digitsValue (c :: cs) = 10 ^ cs.length * (c.toNat - '0'.toNat) + digitsValue cs := by
  rw [digitsValue, Nat.ofDigitChars_cons, Nat.ofDigitChars_eq_ofDigitChars_zero, Nat.mul_zero,
    Nat.zero_add, ← digitsValue]

/-- The value of some digits needs no more digits than they are. -/
theorem digitsValue_lt {digits : List Char} (isDigits : ∀ c ∈ digits, c.isDigit) :
    digitsValue digits < 10 ^ digits.length := by
  induction digits with
  | nil => decide
  | cons c digits ih =>
    rw [List.forall_mem_cons] at isDigits
    have first := digit_lt_ten isDigits.1
    calc digitsValue (c :: digits)
        < 10 ^ digits.length * (c.toNat - '0'.toNat) + 10 ^ digits.length := by
          rw [digitsValue_cons]
          exact Nat.add_lt_add_left (ih isDigits.2) _
      _ = 10 ^ digits.length * (c.toNat - '0'.toNat + 1) := by rw [Nat.mul_add, Nat.mul_one]
      _ ≤ 10 ^ digits.length * 10 := Nat.mul_le_mul_left _ first
      _ = 10 ^ (c :: digits).length := by rw [List.length_cons, Nat.pow_succ]

theorem digitsValue_eq_zero_iff {digits : List Char} (isDigits : ∀ c ∈ digits, c.isDigit) :
    digitsValue digits = 0 ↔ ∀ c ∈ digits, c = '0' := by
  induction digits with
  | nil => exact iff_of_true rfl (by simp)
  | cons c digits ih =>
    rw [List.forall_mem_cons] at isDigits
    rw [digitsValue_cons, List.forall_mem_cons, Nat.add_eq_zero_iff, ih isDigits.2,
      Nat.mul_eq_zero, ← digit_eq_zero_iff isDigits.1]
    simp

namespace Decimal

/-! ### The number of a numeral -/

/-- The rational number with a sign, the digits before the point and those after it. -/
def rational (sign digits fraction : List Char) : ℚ :=
  let size : ℚ := digitsValue digits + digitsValue fraction / 10 ^ fraction.length
  if sign = ['-'] then -size else size

/-- A text is a numeral that denotes the number `q`. -/
def Denotes (cs : List Char) (q : ℚ) : Prop :=
  ∃ sign digits tail, Parts cs sign digits tail ∧ rational sign digits tail.tail = q

theorem Parts.fraction {cs sign digits tail : List Char} (parts : Parts cs sign digits tail) :
    ∀ c ∈ tail.tail, c.isDigit := by
  rcases parts.tail with rfl | ⟨fraction, rfl, isDigits⟩
  · simp
  · exact isDigits

/-- A numeral has its parts in one way, up to a plus sign. -/
theorem Parts.unique {cs sign sign' digits digits' tail tail' : List Char}
    (parts : Parts cs sign digits tail) (parts' : Parts cs sign' digits' tail') :
    (sign = ['-'] ↔ sign' = ['-']) ∧ digits = digits' ∧ tail = tail' := by
  have split := (splitSign_of_parts parts).symm.trans (splitSign_of_parts parts')
  obtain ⟨minus, rest⟩ := Prod.mk.inj split
  obtain ⟨before, after⟩ := span_of_parts parts
  obtain ⟨before', after'⟩ := span_of_parts parts'
  rw [rest] at before after
  exact ⟨decide_eq_decide.1 minus, before.symm.trans before', after.symm.trans after'⟩

theorem Denotes.unique {cs : List Char} {q r : ℚ} (one : Denotes cs q) (other : Denotes cs r) :
    q = r := by
  obtain ⟨sign, digits, tail, parts, rfl⟩ := one
  obtain ⟨sign', digits', tail', parts', rfl⟩ := other
  obtain ⟨minus, rfl, rfl⟩ := parts.unique parts'
  simp only [rational, minus]

/-- A natural number and a proper fraction add up to an integer only if there is no fraction. -/
theorem add_div_eq_intCast_iff {n m d : ℕ} (proper : m < d) (i : ℤ) :
    (n : ℚ) + m / d = i ↔ m = 0 ∧ (n : ℤ) = i := by
  have pos : (0 : ℚ) < d := by exact_mod_cast Nat.zero_lt_of_lt proper
  constructor
  · intro same
    have floor : ⌊(n : ℚ) + m / d⌋ = n := by
      rw [Int.floor_eq_iff]
      have below : (m : ℚ) / d < 1 := by
        rw [div_lt_one pos]
        exact_mod_cast proper
      have above : 0 ≤ (m : ℚ) / d := by positivity
      push_cast
      constructor <;> linarith
    rw [same, Int.floor_intCast] at floor
    subst floor
    have none : (m : ℚ) / d = 0 := by simpa using same
    exact ⟨by exact_mod_cast (div_eq_zero_iff.1 none).resolve_right pos.ne', rfl⟩
  · rintro ⟨rfl, rfl⟩
    simp

/-- A numeral denotes an integer exactly if it has no digit but zero after the point. It is then the
integer before the point. -/
theorem rational_eq_intCast_iff {cs sign digits tail : List Char}
    (parts : Parts cs sign digits tail) (i : ℤ) :
    rational sign digits tail.tail = i ↔ (∀ c ∈ tail.tail, c = '0') ∧ integer sign digits = i := by
  have proper := digitsValue_lt parts.fraction
  have size (j : ℤ) := add_div_eq_intCast_iff (n := digitsValue digits) proper j
  push_cast at size
  rw [← digitsValue_eq_zero_iff parts.fraction, rational, integer]
  split
  · rw [neg_eq_iff_eq_neg, ← Int.cast_neg, size, neg_eq_iff_eq_neg]
  · exact size i

/-! ### Reading a numeral -/

/-- What is read are the numerals whose integer part fits a signed word of 64 bits. -/
theorem read?_isSome_iff {cs : List Char} :
    (read? cs).isSome ↔
      ∃ sign digits tail, Parts cs sign digits tail ∧ FitsWord (integer sign digits) := by
  constructor
  · intro some
    obtain ⟨d, read⟩ := Option.isSome_iff_exists.1 some
    obtain ⟨sign, digits, tail, parts⟩ := exists_parts_of_read? read
    rw [read?_of_parts parts, Option.isSome_ite] at some
    exact ⟨sign, digits, tail, parts, some⟩
  · rintro ⟨sign, digits, tail, parts, fits⟩
    rw [read?_of_parts parts, if_pos fits]
    rfl

/-- A numeral that is read denotes a number. It has a fraction exactly if the number is no integer,
and otherwise the number is the integer that is read. -/
theorem denotes_of_read? {cs : List Char} {d : Decimal} (read : read? cs = some d) :
    ∃ q, Denotes cs q ∧ (d.fractional ↔ ∀ i : ℤ, q ≠ i) ∧ ∀ i : ℤ, q = i → d.whole = i := by
  obtain ⟨sign, digits, tail, parts⟩ := exists_parts_of_read? read
  rw [read?_of_parts parts, Option.ite_none_right_eq_some, Option.some.injEq] at read
  obtain ⟨-, rfl⟩ := read
  refine ⟨_, ⟨sign, digits, tail, parts, rfl⟩, ?_, fun i same => ?_⟩
  · simp only [ne_eq, rational_eq_intCast_iff parts, not_and, List.any_eq_true, decide_eq_true_eq]
    constructor
    · rintro ⟨c, mem, other⟩ i zeros
      exact absurd (zeros c mem) other
    · intro noInteger
      by_contra zeros
      push Not at zeros
      exact noInteger _ zeros rfl
  · exact ((rational_eq_intCast_iff parts i).1 same).2

end Decimal

end Text

open Text Text.Decimal

/-! ### Numbers of an instruction -/

/-- A reader that takes one word reads a line of that word alone. -/
theorem Quantity.run_form (p : Quantity) (w : String) : p.form.run [w] = p.read w := by
  simp only [form, Form.word, Form.run]
  cases p.read w <;> rfl

/-- What comes of reading a number, by the rational number that the word denotes: the number itself
if it is an integer and allowed, and otherwise the reason why not. -/
structure Quantity.Sorted (p : Quantity) (q : ℚ) (result : Except LineFault Nat) : Prop where
  ok : ∀ n, result = .ok n ↔ q = n ∧ p.least ≤ n ∧ n < p.limit
  fractional : result = .error (.fractional p) ↔ ∀ i : ℤ, q ≠ i
  tooSmall : result = .error (.tooSmall p) ↔ ∃ i : ℤ, q = i ∧ i < p.least
  tooLarge : result = .error (.unknown (.number p)) ↔ ∃ i : ℤ, q = i ∧ p.limit ≤ i

namespace Quantity

theorem least_nonneg (p : Quantity) : 0 ≤ p.least := by
  cases p <;> decide

theorem least_lt_limit (p : Quantity) : p.least < p.limit := by
  cases p <;> decide

theorem sorted_of_fraction (p : Quantity) {q : ℚ} (noInteger : ∀ i : ℤ, q ≠ i) :
    p.Sorted q (.error (.fractional p)) := by
  constructor
  case ok =>
    intro n
    have other : q ≠ n := by exact_mod_cast noInteger n
    simp [other]
  case fractional => exact iff_of_true rfl noInteger
  case tooSmall => simp [noInteger]
  case tooLarge => simp [noInteger]

theorem sorted_of_integer (p : Quantity) (i : ℤ) :
    p.Sorted i
      (if i < p.least then .error (.tooSmall p)
      else if i < p.limit then .ok i.toNat
      else .error (.unknown (.number p))) := by
  have least := p.least_nonneg
  have limit := p.least_lt_limit
  have integral (P : ℤ → Prop) : (∃ j : ℤ, (i : ℚ) = j ∧ P j) ↔ P i := by simp
  constructor
  case ok =>
    intro n
    have natural : (i : ℚ) = n ↔ i = n := by exact_mod_cast Iff.rfl
    rw [natural]
    split_ifs with small large
    · simp only [false_iff]
      omega
    · rw [Except.ok.injEq]
      omega
    · simp only [false_iff]
      omega
  case fractional => split_ifs <;> simp
  case tooSmall =>
    rw [integral]
    split_ifs with small large
    · exact iff_of_true rfl small
    · exact iff_of_false nofun small
    · exact iff_of_false nofun small
  case tooLarge =>
    rw [integral, ← not_lt]
    split_ifs with small large
    · exact iff_of_false nofun (not_not_intro (small.trans limit))
    · exact iff_of_false nofun (not_not_intro large)
    · exact iff_of_true rfl large

/-- Which number a numeral denotes decides what is read. -/
theorem sorted_of_denotes (p : Quantity) {w : String} {q : ℚ} (readable : (read? w.toList).isSome)
    (denotes : Denotes w.toList q) : p.Sorted q (p.read w) := by
  obtain ⟨d, read⟩ := Option.isSome_iff_exists.1 readable
  obtain ⟨q', denotes', fractional, whole⟩ := denotes_of_read? read
  obtain rfl := denotes.unique denotes'
  rw [Quantity.read, read]
  dsimp only
  split
  · rename_i isFraction
    exact p.sorted_of_fraction (fractional.1 isFraction)
  · rename_i isWhole
    obtain ⟨i, rfl⟩ : ∃ i : ℤ, q = i := by
      simpa using mt fractional.2 isWhole
    rw [whole i rfl]
    exact p.sorted_of_integer i

/-- A number that is read and is an integer fits a signed word of 64 bits. -/
theorem fitsWord_of_denotes {cs : List Char} {i : ℤ} (readable : (read? cs).isSome)
    (denotes : Denotes cs i) : FitsWord i := by
  obtain ⟨sign, digits, tail, parts, fits⟩ := read?_isSome_iff.1 readable
  obtain ⟨-, rfl⟩ := (rational_eq_intCast_iff parts i).1
    (Denotes.unique ⟨sign, digits, tail, parts, rfl⟩ denotes)
  exact fits

/-- Of all words just the numerals are read whose integer part fits a signed word of 64 bits. Such a
numeral denotes one rational number. It has a fraction exactly if that is no integer, and otherwise
that is the integer that is read. A state is invalid just where the word is not read; it is the
number that the word denotes, unless that is no integer or negative. The odds are that number unless
it is no integer, not positive, or too large for a word of 32 bits. -/
theorem numbers_sorted_by_value (w : String) :
    ((read? w.toList).isSome ↔
      ∃ sign digits tail, Parts w.toList sign digits tail ∧ FitsWord (integer sign digits)) ∧
    (∀ d, read? w.toList = some d → ∃ q, (∀ r, Denotes w.toList r ↔ r = q) ∧
      (d.fractional ↔ ∀ i : ℤ, q ≠ i) ∧ ∀ i : ℤ, q = i → d.whole = i) ∧
    (state.form.run [w] = .error (.unknown (.number .state)) ↔ read? w.toList = none) ∧
    (read? w.toList = none → odds.form.run [w] = .error (.unknown (.number .odds))) ∧
    ∀ q, (read? w.toList).isSome → Denotes w.toList q →
      (∀ n, state.form.run [w] = .ok n ↔ q = n) ∧
      (state.form.run [w] = .error (.fractional .state) ↔ ∀ i : ℤ, q ≠ i) ∧
      (state.form.run [w] = .error (.tooSmall .state) ↔ ∃ i : ℤ, q = i ∧ i < 0) ∧
      (∀ n, odds.form.run [w] = .ok n ↔ q = n ∧ 1 ≤ n ∧ n < 2 ^ 32) ∧
      (odds.form.run [w] = .error (.fractional .odds) ↔ ∀ i : ℤ, q ≠ i) ∧
      (odds.form.run [w] = .error (.tooSmall .odds) ↔ ∃ i : ℤ, q = i ∧ i ≤ 0) ∧
      (odds.form.run [w] = .error (.unknown (.number .odds)) ↔ ∃ i : ℤ, q = i ∧ 2 ^ 32 ≤ i) := by
  have unread (p : Quantity) (none : read? w.toList = none) :
      p.read w = .error (.unknown (.number p)) := by
    rw [Quantity.read, none]
  simp only [run_form]
  refine ⟨read?_isSome_iff, fun d read => ?value, ⟨fun invalid => ?readable, unread .state⟩,
    unread .odds, fun q readable denotes => ?sorted⟩
  case value =>
    obtain ⟨q, denotes, fractional, whole⟩ := denotes_of_read? read
    exact ⟨q, fun r => ⟨fun denotes' => denotes'.unique denotes, fun same => same ▸ denotes⟩,
      fractional, whole⟩
  case readable =>
    rw [← Option.not_isSome_iff_eq_none]
    intro readable
    obtain ⟨d, read⟩ := Option.isSome_iff_exists.1 readable
    obtain ⟨q, denotes, -⟩ := denotes_of_read? read
    -- no word of 63 bits is too large for one of 64
    obtain ⟨i, rfl, large⟩ := (state.sorted_of_denotes readable denotes).tooLarge.1 invalid
    obtain ⟨-, fits⟩ := fitsWord_of_denotes readable denotes
    simp only [limit, UInt64.size] at large
    omega
  case sorted =>
    have asState := state.sorted_of_denotes readable denotes
    have asOdds := odds.sorted_of_denotes readable denotes
    have notPositive (i : ℤ) : i < odds.least ↔ i ≤ 0 := by
      simp only [least]
      omega
    refine ⟨fun n => ?state, asState.fractional, asState.tooSmall, fun n => ?odds,
      asOdds.fractional,
      asOdds.tooSmall.trans (exists_congr fun i => and_congr_right' (notPositive i)),
      asOdds.tooLarge⟩
    case state =>
      rw [asState.ok, and_iff_left_iff_imp]
      rintro rfl
      obtain ⟨-, fits⟩ := fitsWord_of_denotes (i := n) readable (by exact_mod_cast denotes)
      simp only [least, limit, UInt64.size]
      omega
    case odds =>
      rw [asOdds.ok]
      refine and_congr_right' ?_
      simp only [least, limit, UInt32.size]
      omega

/-- Three words that are hard to tell: a negative zero, a negative number between two integers, and
the least number that is no signed word of 64 bits. -/
theorem near_zero_sorted :
    Denotes "-0.".toList 0 ∧ state.form.run ["-0."] = .ok 0 ∧
      odds.form.run ["-0."] = .error (.tooSmall .odds) ∧
      Denotes "-0.50".toList (-1 / 2) ∧
      state.form.run ["-0.50"] = .error (.fractional .state) ∧
      state.form.run ["9223372036854775808"] = .error (.unknown (.number .state)) := by
  have zero : Denotes "-0.".toList 0 := by
    refine ⟨['-'], ['0'], ['.'],
      ⟨rfl, .inr (.inr rfl), by decide, by simp, .inr ⟨[], rfl, by simp⟩⟩, ?_⟩
    have nothing : digitsValue ['0'] = 0 ∧ digitsValue [] = 0 := ⟨rfl, rfl⟩
    simp [rational, nothing]
  have half : Denotes "-0.50".toList (-1 / 2) := by
    refine ⟨['-'], ['0'], ['.', '5', '0'],
      ⟨rfl, .inr (.inr rfl), by decide, by simp, .inr ⟨['5', '0'], rfl, by simp⟩⟩, ?_⟩
    have values : digitsValue ['0'] = 0 ∧ digitsValue ['5', '0'] = 50 := ⟨rfl, rfl⟩
    norm_num [rational, values]
  obtain ⟨-, -, -, -, sorted⟩ := numbers_sorted_by_value "-0."
  obtain ⟨ok, -, -, -, -, tooSmall, -⟩ := sorted 0 (by decide) zero
  obtain ⟨-, -, -, -, sorted'⟩ := numbers_sorted_by_value "-0.50"
  obtain ⟨-, fractional, -⟩ := sorted' (-1 / 2) (by decide) half
  obtain ⟨-, -, unread, -⟩ := numbers_sorted_by_value "9223372036854775808"
  refine ⟨zero, (ok 0).2 (by simp), tooSmall.2 ⟨0, by simp, le_refl 0⟩, half,
    fractional.2 fun i same => ?_, unread.2 (by decide)⟩
  have twice : (-1 : ℚ) = 2 * i := by linarith
  have odd : (-1 : ℤ) = 2 * i := by exact_mod_cast twice
  omega

end Quantity

end Formicary
