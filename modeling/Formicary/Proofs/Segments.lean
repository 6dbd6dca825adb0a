/-
Module: Formicary.Proofs.Segments
Purpose: Texts put together from parts whose ends are not marked: when the parts can be told from
  the whole.
Main exports: Text.Undigited, Text.repr_append_inj, Text.int_append_inj, Text.Apart, Text.Segment,
  Text.Segment.append, Text.Segment.append_last
-/

namespace Formicary.Text

variable {α β : Type}

/-! ### Numbers -/

/-- A text that does not begin with a digit. -/
def Undigited (cs : List Char) : Prop := cs.head?.any Char.isDigit = false

instance (cs : List Char) : Decidable (Undigited cs) :=
  inferInstanceAs (Decidable (_ = false))

theorem Undigited.append {cs : List Char} (stop : Undigited cs) (some : cs ≠ [])
    (rest : List Char) : Undigited (cs ++ rest) := by
  obtain ⟨c, cs, rfl⟩ := List.exists_cons_of_ne_nil some
  exact stop

theorem takeWhile_digits {digits rest : List Char} (digit : ∀ c ∈ digits, c.isDigit)
    (stop : Undigited rest) : (digits ++ rest).takeWhile Char.isDigit = digits := by
  rw [List.takeWhile_append_of_pos digit]
  cases rest with
  | nil => simp
  | cons c rest =>
    have other : c.isDigit = false := stop
    simp [other]

/-- Digits end where a text without a digit at its head begins. -/
theorem digits_append_inj {front front' back back' : List Char}
    (digit : ∀ c ∈ front, c.isDigit) (digit' : ∀ c ∈ front', c.isDigit)
    (stop : Undigited back) (stop' : Undigited back') (same : front ++ back = front' ++ back') :
    front = front' ∧ back = back' := by
  have fronts : front = front' := by
    rw [← takeWhile_digits digit stop, same, takeWhile_digits digit' stop']
  subst fronts
  exact ⟨rfl, List.append_cancel_left same⟩

theorem isDigit_of_mem_repr {n : Nat} {c : Char} (mem : c ∈ (Nat.repr n).toList) : c.isDigit := by
  rw [Nat.toList_repr] at mem
  exact Nat.isDigit_of_mem_toDigits (by decide) (by decide) mem

theorem repr_append_inj {m n : Nat} {back back' : List Char} (stop : Undigited back)
    (stop' : Undigited back')
    (same : (Nat.repr m).toList ++ back = (Nat.repr n).toList ++ back') : m = n ∧ back = back' := by
  obtain ⟨digits, rest⟩ := digits_append_inj (fun _ => isDigit_of_mem_repr)
    (fun _ => isDigit_of_mem_repr) stop stop' same
  refine ⟨?_, rest⟩
  rw [Nat.toList_repr, Nat.toList_repr] at digits
  rw [← Nat.ofDigitChars_ten_toDigits (n := m), digits, Nat.ofDigitChars_ten_toDigits]

theorem mem_digits {c : Char} (digit : c.isDigit) : c ∈ "0123456789".toList := by
  rw [Char.isDigit, Bool.and_eq_true, decide_eq_true_eq, decide_eq_true_eq] at digit
  have least : 48 ≤ c.toNat := digit.1
  have greatest : c.toNat ≤ 57 := digit.2
  have each : ∀ n ∈ List.range' 48 10, Char.ofNat n ∈ "0123456789".toList := by decide
  rw [← Char.ofNat_toNat c]
  exact each _ (List.mem_range'_1.2 ⟨least, Nat.lt_succ_of_le greatest⟩)

theorem exists_repr_eq_cons (n : Nat) :
    ∃ c rest, (Nat.repr n).toList = c :: rest ∧ c.isDigit := by
  obtain ⟨c, rest, digits⟩ := List.exists_cons_of_ne_nil
    (show (Nat.repr n).toList ≠ [] by rw [Nat.toList_repr]; exact Nat.toDigits_ne_nil)
  exact ⟨c, rest, digits, isDigit_of_mem_repr (n := n) (digits ▸ List.mem_cons_self)⟩

/-- A minus sign is no digit. -/
theorem repr_append_ne_minus {n : Nat} {back back' : List Char} :
    (Nat.repr n).toList ++ back ≠ '-' :: back' := by
  obtain ⟨c, rest, digits, isDigit⟩ := exists_repr_eq_cons n
  rw [digits, List.cons_append]
  rintro ⟨⟩
  cases isDigit

theorem toList_repr_negSucc (n : Nat) :
    (Int.negSucc n).repr.toList = '-' :: (Nat.repr (n + 1)).toList := by
  rw [Int.repr, String.toList_append]
  rfl

theorem int_append_inj {i j : Int} {back back' : List Char} (stop : Undigited back)
    (stop' : Undigited back') (same : i.repr.toList ++ back = j.repr.toList ++ back') :
    i = j ∧ back = back' := by
  cases i with
  | ofNat m =>
    cases j with
    | ofNat n =>
      obtain ⟨rfl, rest⟩ := repr_append_inj stop stop' same
      exact ⟨rfl, rest⟩
    | negSucc n =>
      rw [toList_repr_negSucc] at same
      exact absurd same repr_append_ne_minus
  | negSucc m =>
    cases j with
    | ofNat n =>
      rw [toList_repr_negSucc] at same
      exact absurd same.symm repr_append_ne_minus
    | negSucc n =>
      rw [toList_repr_negSucc, toList_repr_negSucc] at same
      obtain ⟨size, rest⟩ := repr_append_inj (m := m + 1) (n := n + 1) stop stop'
        (List.cons.inj same).2
      rw [Nat.succ.inj size]
      exact ⟨rfl, rest⟩

section Separator

variable {sep back back' : List Char} (stop : Undigited sep) (some : sep ≠ [])

include stop some

/-- A number can be told from what separates it from the rest. -/
theorem repr_sep_inj {m n : Nat}
    (same : (Nat.repr m).toList ++ (sep ++ back) = (Nat.repr n).toList ++ (sep ++ back')) :
    m = n ∧ back = back' := by
  obtain ⟨number, rest⟩ := repr_append_inj (stop.append some back) (stop.append some back') same
  exact ⟨number, List.append_cancel_left rest⟩

theorem int_sep_inj {i j : Int}
    (same : i.repr.toList ++ (sep ++ back) = j.repr.toList ++ (sep ++ back')) :
    i = j ∧ back = back' := by
  obtain ⟨number, rest⟩ := int_append_inj (stop.append some back) (stop.append some back') same
  exact ⟨number, List.append_cancel_left rest⟩

end Separator

/-! ### Parts that may be missing -/

/-- A text begins with none of the openings. -/
def Lacks (openings : List (List Char)) (cs : List Char) : Prop := ∀ o ∈ openings, ¬o <+: cs

/-- A text is nothing, or it begins with one of the openings. -/
def Opens (openings : List (List Char)) (cs : List Char) : Prop :=
  cs = [] ∨ ∃ o ∈ openings, o <+: cs

/-- No opening of one list and one of another begin alike to the end of the shorter. -/
def Apart (openings openings' : List (List Char)) : Prop :=
  ∀ o ∈ openings, ∀ o' ∈ openings', ¬o <+: o' ∧ ¬o' <+: o

instance (openings openings' : List (List Char)) : Decidable (Apart openings openings') :=
  inferInstanceAs (Decidable (∀ o ∈ openings, ∀ o' ∈ openings', ¬o <+: o' ∧ ¬o' <+: o))

/-- What opens like one part does not open like the other. -/
theorem Lacks.of_opens {openings openings' : List (List Char)} {cs rest : List Char}
    (apart : Apart openings openings') (opens : Opens openings' cs)
    (lacks : Lacks openings rest) : Lacks openings (cs ++ rest) := by
  intro o isOpening begins
  rcases opens with rfl | ⟨o', isOpening', begins'⟩
  · exact lacks o isOpening begins
  · obtain ⟨differ, differ'⟩ := apart o isOpening o' isOpening'
    have begins'' : o' <+: cs ++ rest := begins'.trans (List.prefix_append cs rest)
    exact (List.prefix_or_prefix_of_prefix begins begins'').elim differ differ'

/-- A part of a text that may be missing. If it is there, it begins with one of its openings; and
unless another of them follows, its end and what it says can be told. -/
structure Segment (text : α → List Char) (openings : List (List Char)) : Prop where
  opens : ∀ a, Opens openings (text a)
  tells : ∀ {a a' back back'}, Lacks openings back → Lacks openings back' →
    text a ++ back = text a' ++ back' → a = a' ∧ back = back'

namespace Segment

variable {text : α → List Char} {text' : β → List Char} {openings openings' : List (List Char)}

/-- A part that is missing for one value only, and marks its own end for the others. -/
theorem of_absent (absent : α) (missing : text absent = [])
    (begins : ∀ a, a ≠ absent → ∃ o ∈ openings, o <+: text a)
    (ends : ∀ a a' back back', a ≠ absent → a' ≠ absent → text a ++ back = text a' ++ back' →
      a = a' ∧ back = back') : Segment text openings where
  opens a := by
    by_cases none : a = absent
    · exact .inl (none ▸ missing)
    · exact .inr (begins a none)
  tells {a a' back back'} lacks lacks' same := by
    have present {a back back'} (some : a ≠ absent) (lacks : Lacks openings back') :
        text a ++ back ≠ text absent ++ back' := by
      intro same
      obtain ⟨o, isOpening, begins⟩ := begins a some
      rw [missing, List.nil_append] at same
      exact lacks o isOpening (same ▸ begins.trans (List.prefix_append _ back))
    by_cases none : a = absent
    · by_cases none' : a' = absent
      · subst none none'
        exact ⟨rfl, List.append_cancel_left same⟩
      · subst none
        exact absurd same.symm (present none' lacks)
    · by_cases none' : a' = absent
      · subst none'
        exact absurd same (present none lacks')
      · exact ends a a' back back' none none' same

/-- Two parts that open differently, one after the other. -/
theorem append (first : Segment text openings) (second : Segment text' openings')
    (apart : Apart openings openings') :
    Segment (fun p : α × β => text p.1 ++ text' p.2) (openings ++ openings') where
  opens p := by
    rcases first.opens p.1 with none | ⟨o, isOpening, begins⟩
    · rw [none, List.nil_append]
      rcases second.opens p.2 with none' | ⟨o, isOpening, begins⟩
      · exact .inl none'
      · exact .inr ⟨o, List.mem_append_right _ isOpening, begins⟩
    · exact .inr ⟨o, List.mem_append_left _ isOpening, begins.trans (List.prefix_append _ _)⟩
  tells {p p' back back'} lacks lacks' same := by
    have firstLacks {back} (b : β) (lacks : Lacks (openings ++ openings') back) :
        Lacks openings (text' b ++ back) :=
      .of_opens apart (second.opens b) fun o mem => lacks o (List.mem_append_left _ mem)
    have secondLacks {back} (lacks : Lacks (openings ++ openings') back) : Lacks openings' back :=
      fun o mem => lacks o (List.mem_append_right _ mem)
    rw [List.append_assoc, List.append_assoc] at same
    obtain ⟨left, same⟩ := first.tells (firstLacks _ lacks) (firstLacks _ lacks') same
    obtain ⟨right, same⟩ := second.tells (secondLacks lacks) (secondLacks lacks') same
    exact ⟨Prod.ext left right, same⟩

/-- A part before the end of a text that opens differently. -/
theorem append_last (first : Segment text openings) (a a' : α) {last last' : List Char}
    (some : [] ∉ openings) (apart : Apart openings openings') (opens : Opens openings' last)
    (opens' : Opens openings' last') (same : text a ++ last = text a' ++ last') :
    a = a' ∧ last = last' := by
  have lacksNil : Lacks openings [] := by
    intro o isOpening begins
    rw [List.prefix_nil] at begins
    exact some (begins ▸ isOpening)
  have lacks {last} (opens : Opens openings' last) : Lacks openings last := by
    simpa using lacksNil.of_opens apart opens
  exact first.tells (lacks opens) (lacks opens') same

end Segment

end Formicary.Text
