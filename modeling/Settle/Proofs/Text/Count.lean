/-
What is read as a count.

`Text.countFrom` reads one digit after the other and stops at the first thing that is
wrong. `Text.Numeral` says what a count is and which number it stands for, and
`Text.Miscounts` what is wrong with any other text, both without an order of reading:
whether a bad character or an overflow is reported depends on what the digits before the
bad character amount to. The number of digits is `Nat.ofDigitChars`, which never
decreases as digits are added, so the reader may stop where the limit is reached.

What is read is the text between its blanks. `Text.Stripped` says which part that is
without saying how it is found.
-/
import Mathlib.Data.List.Basic
import Settle.Text.Blank
import Settle.Text.Count

set_option autoImplicit false

namespace Settle.Text

/-! ## 1. Digits -/

/-- Every character is a decimal digit. -/
def Digits (s : List Char) : Prop := ∀ c ∈ s, c.isDigit = true

theorem digits_cons {c : Char} {s : List Char} : Digits (c :: s) ↔ c.isDigit = true ∧ Digits s :=
  List.forall_mem_cons

/-- A bad character stands where no digits before it have reached the limit. -/
def MeetsBadDigit (limit value : Nat) (s : List Char) : Prop :=
  ∃ front c back, s = front ++ c :: back ∧ ¬ c.isDigit = true ∧
    ∀ digits, digits <+: front → Digits digits → Nat.ofDigitChars 10 digits value < limit

section Reading

variable {limit value n : Nat} {c : Char} {s : List Char}

/-- A number with one more digit. -/
def pushed (value : Nat) (c : Char) : Nat := 10 * value + (c.toNat - '0'.toNat)

theorem ofDigitChars_cons (c : Char) (s : List Char) (value : Nat) :
    Nat.ofDigitChars 10 (c :: s) value = Nat.ofDigitChars 10 s (pushed value c) :=
  Nat.ofDigitChars_cons

/-- More digits make no smaller number. -/
theorem le_ofDigitChars (s : List Char) (value : Nat) : value ≤ Nat.ofDigitChars 10 s value := by
  induction s generalizing value with
  | nil => exact Nat.le_refl value
  | cons c rest ih =>
    have hpushed : value ≤ pushed value c := by
      unfold pushed
      omega
    rw [ofDigitChars_cons]
    exact Nat.le_trans hpushed (ih (pushed value c))

theorem countFrom_of_bad (hc : ¬ c.isDigit = true) :
    countFrom limit value (c :: s) = .error .badDigit := by
  unfold countFrom
  rw [if_neg hc]

theorem countFrom_of_digit (hc : c.isDigit = true) :
    countFrom limit value (c :: s) =
      if pushed value c < limit then countFrom limit (pushed value c) s
      else .error .tooLarge := by
  rw [countFrom, if_pos hc, Nat.mul_comm]
  rfl

/-- By induction on the text that is left, from what has been read. -/
theorem countFrom_eq_ok_iff (hvalue : value < limit) :
    countFrom limit value s = .ok n ↔
      Digits s ∧ n = Nat.ofDigitChars 10 s value ∧ n < limit := by
  induction s generalizing value with
  | nil =>
    rw [countFrom, Except.ok.injEq, Nat.ofDigitChars_nil]
    constructor
    · rintro rfl
      exact ⟨fun _ hc => absurd hc List.not_mem_nil, rfl, hvalue⟩
    · intro h
      exact h.2.1.symm
  | cons c rest ih =>
    rw [digits_cons, ofDigitChars_cons]
    by_cases hc : c.isDigit = true
    · rw [countFrom_of_digit hc]
      by_cases hnext : pushed value c < limit
      · rw [if_pos hnext, ih hnext]
        simp only [hc, true_and]
      · -- The limit has been reached, and the digits that follow lead no way back.
        have hle := le_ofDigitChars rest (pushed value c)
        rw [if_neg hnext]
        constructor
        · intro h
          cases h
        · rintro ⟨-, rfl, hn⟩
          omega
    · rw [countFrom_of_bad hc]
      simp [hc]

theorem meetsBadDigit_of_bad (hvalue : value < limit) (hc : ¬ c.isDigit = true) :
    MeetsBadDigit limit value (c :: s) := by
  refine ⟨[], c, s, rfl, hc, fun digits hpart _ => ?_⟩
  rw [List.prefix_nil.1 hpart]
  exact hvalue

/-- Behind a digit a bad character counts if the limit is not reached with that digit. -/
theorem meetsBadDigit_cons_iff (hvalue : value < limit) (hc : c.isDigit = true) :
    MeetsBadDigit limit value (c :: s) ↔
      pushed value c < limit ∧ MeetsBadDigit limit (pushed value c) s := by
  constructor
  · rintro ⟨front, bad, back, hsplit, hbad, hbelow⟩
    rcases List.cons_eq_append_iff.1 hsplit with ⟨rfl, hsame⟩ | ⟨front, rfl, rfl⟩
    · cases hsame
      exact absurd hc hbad
    · have hdigit (digits : List Char) (hpart : digits <+: front) (hdigits : Digits digits) :
          Nat.ofDigitChars 10 digits (pushed value c) < limit :=
        hbelow (c :: digits) (List.cons_prefix_cons.2 ⟨rfl, hpart⟩)
          (digits_cons.2 ⟨hc, hdigits⟩)
      have hone := hdigit [] List.nil_prefix fun _ h => absurd h List.not_mem_nil
      exact ⟨hone, front, bad, back, rfl, hbad, hdigit⟩
  · rintro ⟨hnext, front, bad, back, rfl, hbad, hbelow⟩
    refine ⟨c :: front, bad, back, rfl, hbad, fun digits hpart hdigits => ?_⟩
    rcases List.prefix_cons_iff.1 hpart with rfl | ⟨rest, rfl, hrest⟩
    · exact hvalue
    · exact hbelow rest hrest (digits_cons.1 hdigits).2

theorem countFrom_eq_badDigit_iff (hvalue : value < limit) :
    countFrom limit value s = .error .badDigit ↔ MeetsBadDigit limit value s := by
  induction s generalizing value with
  | nil =>
    constructor
    · intro h
      cases h
    · rintro ⟨front, c, back, hsplit, -⟩
      simp at hsplit
  | cons c rest ih =>
    by_cases hc : c.isDigit = true
    · rw [countFrom_of_digit hc, meetsBadDigit_cons_iff hvalue hc]
      by_cases hnext : pushed value c < limit
      · rw [if_pos hnext, ih hnext]
        simp only [hnext, true_and]
      · rw [if_neg hnext]
        simp [hnext]
    · rw [countFrom_of_bad hc]
      exact iff_of_true rfl (meetsBadDigit_of_bad hvalue hc)

/-- A text with something in it is not found to be empty. -/
theorem countFrom_ne_empty : countFrom limit value s ≠ .error .empty := by
  induction s generalizing value with
  | nil =>
    intro h
    cases h
  | cons c rest ih =>
    by_cases hc : c.isDigit = true
    · rw [countFrom_of_digit hc]
      split
      · exact ih
      · intro h
        cases h
    · rw [countFrom_of_bad hc]
      intro h
      cases h

end Reading

/-! ## 2. Counts -/

/-- The text is a number in decimal, with at most one plus sign before its digits. -/
inductive Numeral : List Char → Nat → Prop
  | plain {digits : List Char} (hsome : digits ≠ []) (h : Digits digits) :
    Numeral digits (Nat.ofDigitChars 10 digits 0)
  | signed {digits : List Char} (hsome : digits ≠ []) (h : Digits digits) :
    Numeral ('+' :: digits) (Nat.ofDigitChars 10 digits 0)

/-- A text behind its plus sign, if it has one. -/
def unsigned : List Char → List Char
  | '+' :: rest => rest
  | s => s

/-- What is wrong with a text that is no number below the limit. -/
inductive Miscounts (limit : Nat) : List Char → CountDefect → Prop
  | empty : Miscounts limit [] .empty
  | loneSign {sign : Char} (hsign : sign = '+' ∨ sign = '-') : Miscounts limit [sign] .badDigit
  | badDigit {s : List Char} (h : MeetsBadDigit limit 0 (unsigned s)) : Miscounts limit s .badDigit
  | tooLarge {s : List Char} (hsome : s ≠ []) (hsign : s ≠ ['+'] ∧ s ≠ ['-'])
    (hnumber : ¬ ∃ n, Numeral s n ∧ n < limit) (h : ¬ MeetsBadDigit limit 0 (unsigned s)) :
    Miscounts limit s .tooLarge

section Counting

variable {limit n : Nat} {s : List Char}

theorem unsigned_of_ne {c : Char} (hc : c ≠ '+') (rest : List Char) :
    unsigned (c :: rest) = c :: rest := by
  unfold unsigned
  split
  · rename_i rest' hsame
    cases hsame
    exact absurd rfl hc
  · rfl

theorem unsigned_of_digit {c : Char} (hc : c.isDigit = true) (rest : List Char) :
    unsigned (c :: rest) = c :: rest := by
  refine unsigned_of_ne ?_ rest
  rintro rfl
  cases hc

/-- Apart from what is empty or nothing but a sign, what is read is the text behind the sign. -/
theorem count_eq (hsome : s ≠ []) (hsign : s ≠ ['+']) :
    count limit s = countFrom limit 0 (unsigned s) := by
  cases s with
  | nil => exact absurd rfl hsome
  | cons c rest =>
    by_cases hc : c = '+'
    · subst hc
      cases rest with
      | nil => exact absurd rfl hsign
      | cons next rest => rfl
    · rw [unsigned_of_ne hc]
      unfold count
      split
      · rename_i h
        cases h
      · rename_i h
        cases h
        exact absurd rfl hc
      · rename_i rest' _ h
        cases h
        exact absurd rfl hc
      · rfl

/-- A number is what has digits behind its sign, and nothing else. -/
theorem numeral_iff :
    Numeral s n ↔
      unsigned s ≠ [] ∧ Digits (unsigned s) ∧ n = Nat.ofDigitChars 10 (unsigned s) 0 := by
  constructor
  · intro h
    cases h with
    | signed hsome hdigits => exact ⟨hsome, hdigits, rfl⟩
    | plain hsome hdigits =>
      cases s with
      | nil => exact absurd rfl hsome
      | cons c rest =>
        rw [unsigned_of_digit (digits_cons.1 hdigits).1]
        exact ⟨hsome, hdigits, rfl⟩
  · rintro ⟨hsome, hdigits, rfl⟩
    cases s with
    | nil => exact absurd rfl hsome
    | cons c rest =>
      by_cases hc : c = '+'
      · subst hc
        exact .signed hsome hdigits
      · rw [unsigned_of_ne hc] at hsome hdigits ⊢
        exact .plain hsome hdigits

theorem unsigned_ne_nil (hsome : s ≠ []) (hsign : s ≠ ['+']) : unsigned s ≠ [] := by
  cases s with
  | nil => exact absurd rfl hsome
  | cons c rest =>
    by_cases hc : c = '+'
    · subst hc
      intro hrest
      exact hsign (congrArg _ hrest)
    · rw [unsigned_of_ne hc]
      exact List.cons_ne_nil c rest

/-- **What is read is a number below the limit**, -/
theorem count_eq_ok_iff (hlimit : 0 < limit) :
    count limit s = .ok n ↔ Numeral s n ∧ n < limit := by
  by_cases hsome : s = []
  · subst hsome
    simp [count, numeral_iff, unsigned]
  by_cases hsign : s = ['+']
  · subst hsign
    simp [count, numeral_iff, unsigned]
  · rw [count_eq hsome hsign, countFrom_eq_ok_iff hlimit, numeral_iff]
    simp only [unsigned_ne_nil hsome hsign, ne_eq, not_false_eq_true, true_and, and_assoc]

/-- **and anything else is refused for what is wrong with it.** -/
theorem miscounts_of_count (hlimit : 0 < limit) {d : CountDefect} (h : count limit s = .error d) :
    Miscounts limit s d := by
  by_cases hsome : s = []
  · subst hsome
    cases h
    exact .empty
  by_cases hsign : s = ['+']
  · subst hsign
    cases h
    exact .loneSign (.inl rfl)
  have hnumber : ¬ ∃ n, Numeral s n ∧ n < limit := by
    rintro ⟨n, hn⟩
    rw [(count_eq_ok_iff hlimit).2 hn] at h
    cases h
  rw [count_eq hsome hsign] at h
  cases d with
  | empty => exact absurd h countFrom_ne_empty
  | badDigit => exact .badDigit ((countFrom_eq_badDigit_iff hlimit).1 h)
  | tooLarge =>
    have hgood : ¬ MeetsBadDigit limit 0 (unsigned s) := by
      intro hbad
      rw [(countFrom_eq_badDigit_iff hlimit).2 hbad] at h
      cases h
    refine .tooLarge hsome ⟨hsign, ?_⟩ hnumber hgood
    -- A lone minus sign is a bad character.
    rintro rfl
    exact hgood (meetsBadDigit_of_bad hlimit (by decide))

theorem Miscounts.count_eq_error (hlimit : 0 < limit) {d : CountDefect} (h : Miscounts limit s d) :
    count limit s = .error d := by
  cases h with
  | empty => rfl
  | loneSign hsign => rcases hsign with rfl | rfl <;> rfl
  | badDigit h =>
    have hsome : unsigned s ≠ [] := by
      obtain ⟨front, c, back, hsplit, -⟩ := h
      rw [hsplit]
      simp
    rw [count_eq]
    · exact (countFrom_eq_badDigit_iff hlimit).2 h
    · rintro rfl
      exact hsome rfl
    · rintro rfl
      exact hsome rfl
  | tooLarge hsome hsign hnumber h =>
    cases hcount : count limit s with
    | ok n => exact absurd ⟨n, (count_eq_ok_iff hlimit).1 hcount⟩ hnumber
    | error d =>
      rw [count_eq hsome hsign.1] at hcount
      cases d with
      | empty => exact absurd hcount countFrom_ne_empty
      | badDigit => exact absurd ((countFrom_eq_badDigit_iff hlimit).1 hcount) h
      | tooLarge => rfl

theorem count_eq_error_iff (hlimit : 0 < limit) {d : CountDefect} :
    count limit s = .error d ↔ Miscounts limit s d :=
  ⟨miscounts_of_count hlimit, fun h => h.count_eq_error hlimit⟩

/-- Of a bad character and an overflow, what comes first is reported. -/
example :
    count 100 "12x3".toList = .error .badDigit ∧ count 100 "123x".toList = .error .tooLarge := by
  decide

end Counting

/-! ## 3. The text between the blanks -/

/-- Nothing but blanks. -/
def Blank (s : List Char) : Prop := ∀ c ∈ s, isBlank c = true

/-- The text has blanks on both sides of its core, which neither begins nor ends with one. -/
structure Stripped (s core : List Char) : Prop where
  around : ∃ front back, s = front ++ core ++ back ∧ Blank front ∧ Blank back
  first : ∀ c ∈ core.head?, isBlank c = false
  last : ∀ c ∈ core.getLast?, isBlank c = false

section Trimming

variable {s core : List Char}

/-- Blanks before a text that does not begin with one are dropped, and nothing else. -/
theorem dropWhile_blank_append {front rest : List Char} (hfront : Blank front)
    (hrest : ∀ c ∈ rest.head?, isBlank c = false) :
    (front ++ rest).dropWhile isBlank = rest := by
  rw [List.dropWhile_append_of_pos hfront]
  cases rest with
  | nil => rfl
  | cons c rest =>
    have hc : ¬ isBlank c = true := Bool.not_eq_true _ ▸ hrest c rfl
    exact List.dropWhile_cons_of_neg hc

theorem Stripped.trimmed_eq (h : Stripped s core) : trimmed s = core := by
  obtain ⟨⟨front, back, rfl, hfront, hback⟩, hfirst, hlast⟩ := h
  unfold trimmed
  by_cases hcore : core = []
  · have hblank : Blank (front ++ back) := by
      intro c hc
      rcases List.mem_append.1 hc with hc | hc
      · exact hfront c hc
      · exact hback c hc
    have hnothing : (front ++ back ++ []).dropWhile isBlank = [] :=
      dropWhile_blank_append hblank nofun
    rw [List.append_nil] at hnothing
    rw [hcore, List.append_nil, hnothing]
    rfl
  · have hhead : ∀ c ∈ (core ++ back).head?, isBlank c = false := by
      rw [List.head?_append_of_ne_nil core hcore]
      exact hfirst
    have hback' : Blank back.reverse := fun c hc => hback c (List.mem_reverse.1 hc)
    have hlast' : ∀ c ∈ core.reverse.head?, isBlank c = false := by
      rw [List.head?_reverse]
      exact hlast
    rw [List.append_assoc, dropWhile_blank_append hfront hhead, List.reverse_append,
      dropWhile_blank_append hback' hlast', List.reverse_reverse]

theorem blank_takeWhile (s : List Char) : Blank (s.takeWhile isBlank) :=
  List.all_eq_true.1 List.all_takeWhile

theorem head?_dropWhile_blank (s : List Char) :
    ∀ c ∈ (s.dropWhile isBlank).head?, isBlank c = false := by
  intro c hc
  have hhead := List.head?_dropWhile_not isBlank s
  rw [Option.mem_def.1 hc] at hhead
  exact hhead

theorem stripped_trimmed (s : List Char) : Stripped s (trimmed s) := by
  -- The blanks before the text, and those behind what is left of it.
  have hfront : s.takeWhile isBlank ++ s.dropWhile isBlank = s := List.takeWhile_append_dropWhile
  have hback : trimmed s ++ ((s.dropWhile isBlank).reverse.takeWhile isBlank).reverse =
      s.dropWhile isBlank := by
    rw [trimmed, ← List.reverse_append, List.takeWhile_append_dropWhile, List.reverse_reverse]
  have hbehind : Blank ((s.dropWhile isBlank).reverse.takeWhile isBlank).reverse :=
    fun c hc => blank_takeWhile _ c (List.mem_reverse.1 hc)
  refine ⟨⟨_, _, ?_, blank_takeWhile s, hbehind⟩, ?_, ?_⟩
  · rw [List.append_assoc, hback, hfront]
  · intro c hc
    refine head?_dropWhile_blank s c ?_
    rw [← hback, List.head?_append, Option.mem_def.1 hc]
    rfl
  · rw [trimmed, List.getLast?_reverse]
    exact head?_dropWhile_blank _

/-- A text has one core, and trimming finds it. -/
theorem stripped_iff : Stripped s core ↔ core = trimmed s := by
  constructor
  · intro h
    exact h.trimmed_eq.symm
  · rintro rfl
    exact stripped_trimmed s

end Trimming

end Settle.Text
