import RoundWorkflow.Moment
import Mathlib.Data.List.TakeWhile

/-!
# Moments and their text

A moment is read back from its text (`Moment.ofText?_text`).  The text has no blanks, so skipping
them does nothing.  A reader of digits stops after as many as it may take, or before a character
that is no digit, whichever comes first.  The fields of a time have as many digits as may be taken.
The year has so many only if it has no sign, and with a sign it ends at the mark after it.
-/

namespace RoundWorkflow

namespace Text

variable {w n : Nat}

theorem isBlank_of_isDigit {c : Char} (h : c.isDigit = true) : isBlank c = false := by
  simp only [Char.isDigit, Bool.and_eq_true, decide_eq_true_eq, ge_iff_le,
    UInt32.le_iff_toNat_le] at h
  obtain ⟨hlow, hhigh⟩ := h
  have hlow : 48 ≤ c.toNat := hlow
  have hhigh : c.toNat ≤ 57 := hhigh
  simp [isBlank, blankRanges]
  omega

theorem length_numeral_le (hw : 0 < w) (h : n < Nat.pow 10 w) : (numeral n).length ≤ w := by
  induction w generalizing n with
  | zero => cases hw
  | succ w ih =>
    rw [numeral]
    split
    · exact Nat.succ_le_succ (Nat.zero_le w)
    · rename_i hn
      have hdiv : n / 10 < Nat.pow 10 w :=
        Nat.div_lt_of_lt_mul (Nat.lt_of_lt_of_eq h (Nat.mul_comm (Nat.pow 10 w) 10))
      have hw : 0 < w := by
        rcases Nat.eq_zero_or_pos w with rfl | hw
        · simp at hdiv
          omega
        · exact hw
      rw [List.length_append]
      exact Nat.succ_le_succ (ih hw hdiv)

theorem length_paddedNumeral (hw : 0 < w) (h : n < Nat.pow 10 w) :
    (paddedNumeral w n).length = w := by
  have := length_numeral_le hw h
  simp [paddedNumeral]
  omega

theorem isDigit_of_mem_paddedNumeral {c : Char} (h : c ∈ paddedNumeral w n) : c.isDigit = true := by
  rcases List.mem_append.mp h with h | h
  · rw [List.eq_of_mem_replicate h]
    rfl
  · exact List.all_eq_true.mp (numeral_all_isDigit n) c h

theorem paddedNumeral_ne_nil (w n : Nat) : paddedNumeral w n ≠ [] := by
  simp [paddedNumeral, numeral_ne_nil]

/-- Zeros before the digits make no difference. -/
theorem natural?_paddedNumeral (w n : Nat) : natural? (paddedNumeral w n) = some n := by
  have hzeros (k : Nat) : digitsValue 0 (List.replicate k '0') = 0 := by
    induction k with
    | zero => rfl
    | succ k ih => exact ih
  have hvalue : digitsValue 0 (paddedNumeral w n) = n := by
    rw [paddedNumeral, digitsValue, List.foldl_append]
    change digitsValue (digitsValue 0 (List.replicate _ '0')) (numeral n) = n
    rw [hzeros, digitsValue_numeral]
  have hdigits : (paddedNumeral w n).all Char.isDigit = true :=
    List.all_eq_true.mpr fun c hc => isDigit_of_mem_paddedNumeral hc
  simp [natural?, paddedNumeral_ne_nil, hdigits, hvalue]

end Text

namespace Moment

open Text

variable {w n most : Nat} {rest : List Char}

/-! ## Reading off the front -/

theorem skip_cons {c : Char} {cs : List Char} (h : isBlank c = false) :
    skip (c :: cs) = c :: cs := by
  simp [skip, h]

theorem skip_paddedNumeral (w n : Nat) (rest : List Char) :
    skip (paddedNumeral w n ++ rest) = paddedNumeral w n ++ rest := by
  obtain ⟨d, ds, hds⟩ := List.exists_cons_of_ne_nil (paddedNumeral_ne_nil w n)
  have hd : d ∈ paddedNumeral w n := hds ▸ List.mem_cons_self
  rw [hds]
  exact skip_cons (isBlank_of_isDigit (isDigit_of_mem_paddedNumeral hd))

/-- Digits are read up to where they end, or as far as they may be. -/
theorem digits?_paddedNumeral (rest : List Char) (hlength : (paddedNumeral w n).length ≤ most)
    (hend : (paddedNumeral w n).length = most ∨ ∀ c ∈ rest.head?, c.isDigit = false) :
    digits? most (paddedNumeral w n ++ rest) = some (n, rest) := by
  have hrest : (rest.take (most - (paddedNumeral w n).length)).takeWhile Char.isDigit = [] := by
    rcases hend with hend | hend
    · simp [hend]
    · cases rest with
      | nil => simp
      | cons c rest =>
        cases most - (paddedNumeral w n).length with
        | zero => rfl
        | succ k => simp [hend c rfl]
  have htake : ((paddedNumeral w n ++ rest).take most).takeWhile Char.isDigit =
      paddedNumeral w n := by
    rw [List.take_append, List.take_of_length_le hlength,
      List.takeWhile_append_of_pos fun c hc => isDigit_of_mem_paddedNumeral hc,
      hrest, List.append_nil]
  rw [digits?, htake, natural?_paddedNumeral]
  simp

theorem field?_paddedNumeral (h : n < 100) (rest : List Char) :
    field? (paddedNumeral 2 n ++ rest) = some (n, rest) := by
  have hlength : (paddedNumeral 2 n).length = 2 := length_paddedNumeral (by decide) h
  rw [field?, skip_paddedNumeral]
  exact digits?_paddedNumeral rest hlength.le (.inl hlength)

/-- With a sign, a year may have any number of digits. -/
theorem digits?_signed (n : Nat) (rest : List Char) :
    digits? (paddedNumeral 4 n ++ '-' :: rest).length (paddedNumeral 4 n ++ '-' :: rest) =
      some (n, '-' :: rest) := by
  refine digits?_paddedNumeral _ ?_ (.inr ?_)
  · simp
  · rintro _ ⟨⟩
    rfl

theorem year?_minus (cs : List Char) :
    year? ('-' :: cs) = (digits? cs.length cs).map fun r => (-(r.1 : Int), r.2) := rfl

theorem year?_plus (cs : List Char) :
    year? ('+' :: cs) = (digits? cs.length cs).map fun r => ((r.1 : Int), r.2) := rfl

theorem year?_of_isDigit {c : Char} {cs : List Char} (h : c.isDigit = true) :
    year? (c :: cs) = (digits? 4 (c :: cs)).map fun r => ((r.1 : Int), r.2) := by
  rw [year?, skip_cons (isBlank_of_isDigit h)]
  split
  · rename_i heq
    cases heq
    cases h
  · rename_i heq
    cases heq
    cases h
  · rfl

theorem year?_yearChars (year : Int) (rest : List Char) :
    year? (yearChars year ++ '-' :: rest) = some (year, '-' :: rest) := by
  rw [yearChars]
  split
  · have hyear : -(year.natAbs : Int) = year := by omega
    rw [List.cons_append, year?_minus, digits?_signed, Option.map_some, hyear]
  · have hyear : (year.natAbs : Int) = year := by omega
    split
    · rw [List.cons_append, year?_plus, digits?_signed, Option.map_some, hyear]
    · have hyearSize : year.natAbs < 10000 := by omega
      have hlength : (paddedNumeral 4 year.natAbs).length = 4 :=
        length_paddedNumeral (by decide) hyearSize
      have hread := digits?_paddedNumeral ('-' :: rest) hlength.le (.inl hlength)
      obtain ⟨d, ds, hds⟩ := List.exists_cons_of_ne_nil (paddedNumeral_ne_nil 4 year.natAbs)
      have hd : d ∈ paddedNumeral 4 year.natAbs := hds ▸ List.mem_cons_self
      rw [hds, List.cons_append] at hread ⊢
      rw [year?_of_isDigit (isDigit_of_mem_paddedNumeral hd), hread, Option.map_some, hyear]

/-! ## Moments -/

theorem daysOfMonth_le (year : Int) (month : Nat) : daysOfMonth year month ≤ 31 := by
  unfold daysOfMonth
  split_ifs <;> omega

theorem mark?_of_mem {c : Char} {marks : List Char} (h : marks.contains c = true) (cs : List Char) :
    mark? marks (c :: cs) = some cs := if_pos h

/-- A moment is read back from its text. -/
theorem ofText?_text {m : Moment} (h : m.isValid = true) : ofText? m.text = some m := by
  obtain ⟨year, month, day, hour, minute, second⟩ := m
  have hvalid := h
  simp only [isValid, Bool.and_eq_true, decide_eq_true_eq] at h
  obtain ⟨⟨⟨⟨⟨⟨-, hmonth⟩, -⟩, hday⟩, hhour⟩, hminute⟩, hsecond⟩ := h
  have hday := hday.trans (daysOfMonth_le year month)
  have hdash (cs : List Char) : mark? ['-'] (skip ('-' :: cs)) = some cs :=
    mark?_of_mem (by decide) cs
  have hcolon (cs : List Char) : mark? [':'] (skip (':' :: cs)) = some cs :=
    mark?_of_mem (by decide) cs
  simp only [ofText?, text, String.toList_ofList, ofChars?, chars, List.append_assoc,
    List.cons_append, bind,
    Option.bind_some, year?_yearChars, hdash, hcolon,
    mark?_of_mem (show ['T', 't', ' '].contains 'T' = true by decide),
    field?_paddedNumeral (show month < 100 by omega),
    field?_paddedNumeral (show day < 100 by omega),
    field?_paddedNumeral (show hour < 100 by omega),
    field?_paddedNumeral (show minute < 100 by omega),
    field?_paddedNumeral (show second < 100 by omega)]
  exact if_pos hvalid

end Moment

end RoundWorkflow
