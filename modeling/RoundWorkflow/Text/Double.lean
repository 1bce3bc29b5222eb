import RoundWorkflow.Text.Decimal

/-!
# Binary floating-point numbers and their decimal text

A `Double` is a number of 64 bits: a sign, an exponent and a significand.  It is
kept as its bits, so two doubles are equal exactly when they are the same
number, and a negative zero is told apart from zero.

Reading rounds a decimal to the nearest double, a tie to the even significand
(`Double.ofDecimal`).  A product and a quotient of doubles are rounded in the same
way, and `Double.ofSignificand` reads a decimal by them: it is quick and may miss the
nearest double by a little.

Writing finds the decimal with the fewest digits that reads back (`Double.shortest`):
for one digit, then two, and so on, it tests the two neighbours of the value on the
grid of that many digits, in exact arithmetic.  Two layouts put those digits on paper.
The *data* layout is that of a JSON document: it keeps a decimal point and goes over to
an exponent below `10^-5` and from `10^16` on, and where both neighbours are equally
near, it takes the even one.  The *plain* layout is positional throughout and writes a
whole number without a point, and of two neighbours it takes the greater.
-/

namespace RoundWorkflow

/-- A floating-point number of 64 bits. -/
structure Double where
  /-- The sign bit, eleven bits of exponent and 52 bits of significand. -/
  bits : UInt64
  deriving DecidableEq, Repr, Inhabited

namespace Double

/-! ## Parts -/

/-- The pattern of positive infinity. -/
def infinityBits : Nat := 0x7FF0000000000000

/-- A double from the pattern of its absolute value and its sign. -/
def ofMagnitude (negative : Bool) (magnitude : Nat) : Double :=
  ⟨UInt64.ofNat (if negative then magnitude + Nat.pow 2 63 else magnitude)⟩

/-- Not a number. -/
def nan : Double := ⟨0x7FF8000000000000⟩

/-- Whether the sign bit is set. -/
def isNegative (x : Double) : Bool := Nat.pow 2 63 ≤ x.bits.toNat

/-- The pattern of the absolute value. -/
def magnitude (x : Double) : Nat := x.bits.toNat % Nat.pow 2 63

/-- Whether the double is neither infinite nor not a number. -/
def isFinite (x : Double) : Bool := x.magnitude < infinityBits

/-- The significand `m` and the exponent `q` of a finite double, whose absolute value is `m *
2^q`. -/
def parts (x : Double) : Nat × Int :=
  let field := x.magnitude / Nat.pow 2 52
  let fraction := x.magnitude % Nat.pow 2 52
  if field = 0 then (fraction, -1074) else (fraction + Nat.pow 2 52, Int.subNatNat field 1075)

/-! ## Reading -/

/-- The quotient rounded to the nearest number, a tie to the even one. -/
def roundQuotient (num den : Nat) : Nat :=
  let q := num / den
  let r := num % den
  if 2 * r < den then q else if den < 2 * r then q + 1 else q + q % 2

/-- The pattern of the double nearest to `num / den`; both are positive. -/
def nearestMagnitude (num den : Nat) : Nat :=
  let guess : Int := (num.log2 : Int) - den.log2
  let reached :=
    if 0 ≤ guess then den * Nat.pow 2 guess.toNat ≤ num else den ≤ num * Nat.pow 2 (-guess).toNat
  let top := if reached then guess else guess - 1
  let q := max (top - 52) (-1074)
  let m :=
    if 0 ≤ q then roundQuotient num (den * Nat.pow 2 q.toNat)
    else roundQuotient (num * Nat.pow 2 (-q).toNat) den
  min ((q + 1074).toNat * Nat.pow 2 52 + m) infinityBits

/-- The double nearest to `n * 10^e`.  Beyond the range it is infinite, and below it zero. -/
def ofDecimal (negative : Bool) (n : Nat) (e : Int) : Double :=
  let scale := ((Text.numeral n).length : Int) + e
  ofMagnitude negative <|
    if n = 0 || scale < -400 then 0
    else if 400 < scale then infinityBits
    else if 0 ≤ e then nearestMagnitude (n * Nat.pow 10 e.toNat) 1
    else nearestMagnitude n (Nat.pow 10 (-e).toNat)

/-! ## Arithmetic -/

/-- The pattern of the double nearest to `num * 2^q / den`; the denominator is positive. -/
def scaledMagnitude (num den : Nat) (q : Int) : Nat :=
  if num = 0 then 0 else nearestMagnitude (num * Nat.pow 2 q.toNat) (den * Nat.pow 2 (-q).toNat)

/-- The absolute value of the product of two finite doubles. -/
def product (x y : Double) : Double :=
  let (m, q) := x.parts
  let (n, r) := y.parts
  ofMagnitude false (scaledMagnitude (m * n) 1 (q + r))

/-- The absolute value of the quotient of two finite doubles, the second of which is not zero. -/
def quotient (x y : Double) : Double :=
  let (m, q) := x.parts
  let (n, r) := y.parts
  ofMagnitude false (scaledMagnitude m n (q - r))

/-- The greatest power of ten that `ofSignificand` multiplies or divides by at once. -/
def maxPower : Nat := 308

/-- The double that is `n` as a double, divided by `10^e`: by the greatest power first, while `e` is
above it. -/
def dividedByPower (x : Double) (e : Nat) : Double :=
  if x.magnitude = 0 then x
  else if e ≤ maxPower then x.quotient (ofDecimal false 1 e)
  else dividedByPower (x.quotient (ofDecimal false 1 maxPower)) (e - maxPower)
termination_by e
decreasing_by simp only [maxPower] at *; omega

/-- The double that is `n` as a double, multiplied or divided by `10^e` as a double. -/
def ofSignificand (negative : Bool) (n : Nat) (e : Int) : Double :=
  let x := ofDecimal false n 0
  let y :=
    if e < 0 then dividedByPower x (-e).toNat
    else if x.magnitude = 0 then x
    else if maxPower < e then ofMagnitude false infinityBits
    else x.product (ofDecimal false 1 e)
  ofMagnitude negative y.magnitude

/-- The parts of a decimal text without its sign: digits, a fraction and an exponent. -/
structure Literal where
  /-- The digits before the point. -/
  whole : List Char
  /-- The digits after the point, if there is one. -/
  fraction : Option (List Char)
  /-- The sign and the digits of the exponent, if there is one. -/
  exponent : Option (Bool × List Char)

/-- Splits a text at the first point and the first `e`. -/
def Literal.ofText (cs : List Char) : Literal :=
  let isMark := fun c => c = 'e' || c = 'E'
  let body := cs.takeWhile fun c => !isMark c
  let whole := body.takeWhile (· ≠ '.')
  let fraction := match body.dropWhile (· ≠ '.') with
    | [] => none
    | _ :: rest => some rest
  let exponent := match cs.dropWhile fun c => !isMark c with
    | [] => none
    | _ :: '-' :: rest => some (true, rest)
    | _ :: '+' :: rest => some (false, rest)
    | _ :: rest => some (false, rest)
  ⟨whole, fraction, exponent⟩

/-- Whether every part is made of digits; an exponent that is there has one at least. -/
def Literal.isNumeric (l : Literal) : Bool :=
  l.whole.all Char.isDigit && (l.fraction.getD []).all Char.isDigit &&
    match l.exponent with
    | none => true
    | some (_, ds) => !ds.isEmpty && ds.all Char.isDigit

/-- The exponent of a numeric literal, cut to a range beyond which it makes no difference. -/
def Literal.exponentValue (l : Literal) : Int :=
  match l.exponent with
  | none => 0
  | some (minus, ds) =>
    let n : Int := min (Text.digitsValue 0 ds) 1000000
    if minus then -n else n

/-- The double nearest to what a numeric literal denotes. -/
def Literal.value (l : Literal) (negative : Bool) : Double :=
  let fraction := l.fraction.getD []
  ofDecimal negative (Text.digitsValue 0 (l.whole ++ fraction)) (l.exponentValue - fraction.length)

/-! ## Writing -/

/-- The decimal exponent of `num / den`: the greatest `k` with `10^k` at most the quotient. -/
def decimalExponent (num den : Nat) : Int :=
  if den ≤ num then (Text.numeral (num / den)).length - 1
  else -(((List.range 400).find? fun j => den ≤ num * Nat.pow 10 j).getD 400 : Int)

/-- Which of two equally near decimals is taken. -/
inductive Tie where
  | even
  | greater
  deriving DecidableEq, Repr, Inhabited

/-- A decimal `n * 10^e` that reads back as the finite, positive double `m * 2^q`, with the fewest
digits. -/
def shortest (tie : Tie) (m : Nat) (q : Int) : Nat × Int :=
  let unit := q - 2
  let up := Nat.pow 2 unit.toNat
  let den := Nat.pow 2 (-unit).toNat
  let value := 4 * m * up
  let low := (if m = Nat.pow 2 52 && -1074 < q then 4 * m - 1 else 4 * m - 2) * up
  let high := (4 * m + 2) * up
  let top := decimalExponent value den
  let closed := m % 2 = 0
  let onGrid (count : Nat) : Option (Nat × Int) :=
    let k := top - count + 1
    let point (d : Nat) : Nat := d * Nat.pow 10 k.toNat * den
    let scale := Nat.pow 10 (-k).toNat
    let hits (d : Nat) : Bool :=
      if closed then low * scale ≤ point d && point d ≤ high * scale
      else low * scale < point d && point d < high * scale
    let below := value * scale / (Nat.pow 10 k.toNat * den)
    let above := below + 1
    match hits below && 0 < below, hits above with
    | true, true =>
      let shortfall := value * scale - point below
      let excess := point above - value * scale
      let tieGoesUp := tie = .greater || below % 2 = 1
      some (if excess < shortfall || (excess = shortfall && tieGoesUp) then above else below, k)
    | true, false => some (below, k)
    | false, true => some (above, k)
    | false, false => none
  ((List.range 17).findSome? fun i => onGrid (i + 1)).getD (m, q)

/-- The digits and the exponent of a finite double, without zeros at the end of the digits. -/
def digits (tie : Tie) (x : Double) : List Char × Int :=
  let (m, q) := x.parts
  if m = 0 then (['0'], 0)
  else
    let (n, e) := shortest tie m q
    let ds := Text.numeral n
    let tail := ds.reverse.takeWhile (· = '0')
    (ds.take (ds.length - tail.length), e + tail.length)

/-- Digits with a point, without an exponent.  A whole number ends in `ending`. -/
def positional (ds : List Char) (e : Int) (ending : List Char) : List Char :=
  let point := (ds.length : Int) + e
  if 0 ≤ e then ds ++ List.replicate e.toNat '0' ++ ending
  else if 0 < point then ds.take point.toNat ++ '.' :: ds.drop point.toNat
  else '0' :: '.' :: List.replicate (-point).toNat '0' ++ ds

/-- The sign of a double as text. -/
def signText (x : Double) : List Char := if x.isNegative then ['-'] else []

/-- The text of an infinite double or of one that is not a number. -/
def specialText (x : Double) : List Char :=
  if infinityBits < x.magnitude then "NaN".toList else x.signText ++ "inf".toList

/-- The data layout of a finite double. -/
def dataText (x : Double) : List Char :=
  let (ds, e) := x.digits .even
  let point := (ds.length : Int) + e
  x.signText ++
    if x.magnitude = 0 then "0.0".toList
    else if -5 < point && point ≤ 16 then positional ds e ".0".toList
    else
      let mantissa := match ds with
        | d :: d' :: rest => d :: '.' :: d' :: rest
        | short => short
      mantissa ++ 'e' :: (if 0 < point then ['+'] else []) ++ Text.integerText (point - 1)

/-- The plain layout. -/
def plainText (x : Double) : List Char :=
  if !x.isFinite then x.specialText
  else
    let (ds, e) := x.digits .greater
    x.signText ++ positional ds e []

/-- The plain layout, with `.0` after a whole number. -/
def pointedText (x : Double) : List Char :=
  if !x.isFinite then x.specialText
  else
    let (ds, e) := x.digits .greater
    x.signText ++ positional ds e ".0".toList

/-! ## Whole numbers -/

/-- The nearest whole number from 0 to `limit`, a half away from zero; 0 where there is no
number. -/
def toNatClamped (limit : Nat) (x : Double) : Nat :=
  if infinityBits < x.magnitude || x.isNegative then 0
  else if !x.isFinite then limit
  else
    let (m, q) := x.parts
    let den := Nat.pow 2 (-q).toNat
    min limit (if 0 ≤ q then m * Nat.pow 2 (min q.toNat 2000) else (2 * m + den) / (2 * den))

/-- Whether the double is zero of either sign. -/
def isZero (x : Double) : Bool := x.magnitude = 0

end Double

end RoundWorkflow
