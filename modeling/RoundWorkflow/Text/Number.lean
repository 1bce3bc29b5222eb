import RoundWorkflow.Text.Double

/-!
# Numbers in text

A number in a setting may have a sign of either kind.  An integer is a run of digits
after it.  A floating-point number has digits before or after a point, or both, and
may have an exponent; the words for infinity and for no number at all are read in any
case of their letters.
-/

namespace RoundWorkflow.Text

/-- Splits off a sign; the first part says whether it is a minus. -/
def splitSign : List Char → Bool × List Char
  | '-' :: cs => (true, cs)
  | '+' :: cs => (false, cs)
  | cs => (false, cs)

/-- Reads an integer with an optional sign. -/
def integer? (cs : List Char) : Option Int :=
  let (minus, digits) := splitSign cs
  (natural? digits).map fun n => if minus then -n else n

/-- Whether an integer has 64 bits, its sign among them. -/
def isInt64 (i : Int) : Bool := -Nat.pow 2 63 ≤ i && i < Nat.pow 2 63

/-- Reads digits of a base up to sixteen. -/
def basedNatural? (base : Nat) (cs : List Char) : Option Nat :=
  let digit? (c : Char) : Option Nat :=
    let n := if c.isDigit then some (c.toNat - 48)
      else if 'a' ≤ c ∧ c ≤ 'f' then some (c.toNat - 87)
      else if 'A' ≤ c ∧ c ≤ 'F' then some (c.toNat - 55)
      else none
    n.filter (· < base)
  if cs.isEmpty then none
  else cs.foldl (fun acc c => acc.bind fun n => (digit? c).map fun d => base * n + d) (some 0)

/-- Reads a floating-point number with an optional sign. -/
def double? (cs : List Char) : Option Double :=
  let (minus, body) := splitSign cs
  let word := String.ofList (body.map Char.toLower)
  if word = "inf" || word = "infinity" then some (Double.ofMagnitude minus Double.infinityBits)
  else if word = "nan" then some Double.nan
  else
    let literal := Double.Literal.ofText body
    if literal.isNumeric && !(literal.whole ++ literal.fraction.getD []).isEmpty then
      some (literal.value minus)
    else none

end RoundWorkflow.Text
