/-!
# Decimal numerals

`numeral n` writes a natural number with the fewest digits, and `natural?` reads
a run of digits back.  `natural?_numeral` says that reading undoes writing.
-/

namespace RoundWorkflow.Text

/-- The digit of a number below ten. -/
def digit (n : Nat) : Char :=
  Char.ofNat (48 + n)

/-- The decimal digits of a number, without leading zeros. -/
def numeral (n : Nat) : List Char :=
  if n < 10 then [digit n] else numeral (n / 10) ++ [digit (n % 10)]

/-- The value of a digit. -/
def digitValue (c : Char) : Nat :=
  c.toNat - 48

/-- The value of a run of digits, read from the left onto `acc`. -/
def digitsValue (acc : Nat) (cs : List Char) : Nat :=
  cs.foldl (fun n c => 10 * n + digitValue c) acc

/-- Reads one or more digits and nothing else. -/
def natural? (cs : List Char) : Option Nat :=
  if !cs.isEmpty && cs.all Char.isDigit then some (digitsValue 0 cs) else none

/-- The text of an integer: a minus sign before the digits of a negative one. -/
def integerText (i : Int) : List Char :=
  match i with
  | .ofNat n => numeral n
  | .negSucc n => '-' :: numeral (n + 1)

/-- The digits of a number, with zeros before them up to a width. -/
def paddedNumeral (width n : Nat) : List Char :=
  let digits := numeral n
  List.replicate (width - digits.length) '0' ++ digits

theorem digit_isDigit_of_lt : ∀ n, n < 10 → (digit n).isDigit = true := by decide

theorem digitValue_digit_of_lt : ∀ n, n < 10 → digitValue (digit n) = n := by decide

theorem numeral_ne_nil (n : Nat) : numeral n ≠ [] := by
  rw [numeral]
  split <;> simp

theorem numeral_all_isDigit (n : Nat) : (numeral n).all Char.isDigit = true := by
  rw [numeral]
  split
  · simp [digit_isDigit_of_lt n (by assumption)]
  · simp only [List.all_append, List.all_cons, List.all_nil, Bool.and_true, Bool.and_eq_true]
    exact ⟨numeral_all_isDigit (n / 10), digit_isDigit_of_lt _ (by omega)⟩
termination_by n

theorem digitsValue_numeral (n : Nat) : digitsValue 0 (numeral n) = n := by
  rw [numeral]
  split
  · simp [digitsValue, digitValue_digit_of_lt n (by assumption)]
  · have ih := digitsValue_numeral (n / 10)
    simp only [digitsValue] at ih
    simp only [digitsValue, List.foldl_append, List.foldl_cons, List.foldl_nil, ih,
      digitValue_digit_of_lt (n % 10) (by omega)]
    omega
termination_by n

/-- Reading undoes writing. -/
theorem natural?_numeral (n : Nat) : natural? (numeral n) = some n := by
  simp [natural?, numeral_ne_nil, numeral_all_isDigit, digitsValue_numeral]

end RoundWorkflow.Text
