import RoundWorkflow.Text.Blank
import RoundWorkflow.Text.Decimal

/-!
# Moments

A moment is a whole second of Coordinated Universal Time, given by its date and its
time of day.  It is written `2024-02-29T23:59:59Z`, with a sign before a year that has
not four digits.  The days of the months are those of the Gregorian calendar, and the
last second of a minute may be a sixty-first one.

A reader is lenient: fewer digits will do for every number, and blanks may stand before
a number and before most marks.
-/

namespace RoundWorkflow

/-- A whole second of Coordinated Universal Time. -/
structure Moment where
  /-- The year; before the year 1 come the year 0 and the negative ones. -/
  year : Int
  /-- The month, from 1. -/
  month : Nat
  /-- The day of the month, from 1. -/
  day : Nat
  /-- The hour. -/
  hour : Nat
  /-- The minute. -/
  minute : Nat
  /-- The second; 60 stands for a leap second. -/
  second : Nat
  deriving DecidableEq, Repr, Inhabited

namespace Moment

/-! ## The calendar -/

/-- Whether a year has a 29th of February. -/
def isLeapYear (year : Int) : Bool := (year % 4 = 0 && year % 100 ≠ 0) || year % 400 = 0

/-- The number of days of a month. -/
def daysOfMonth (year : Int) (month : Nat) : Nat :=
  if month = 2 then if isLeapYear year then 29 else 28
  else if month = 4 || month = 6 || month = 9 || month = 11 then 30
  else 31

/-- The first year that can be told. -/
def firstYear : Int := -262143

/-- The last year that can be told. -/
def lastYear : Int := 262142

/-- Whether there is such a moment. -/
def isValid (m : Moment) : Bool :=
  firstYear ≤ m.year && m.year ≤ lastYear && 1 ≤ m.month && m.month ≤ 12 && 1 ≤ m.day &&
    m.day ≤ daysOfMonth m.year m.month && m.hour ≤ 23 && m.minute ≤ 59 && m.second ≤ 60

/-! ## Writing -/

/-- The digits of a year, with a sign unless there are four of them. -/
def yearChars (year : Int) : List Char :=
  if year < 0 then '-' :: Text.paddedNumeral 4 year.natAbs
  else if 9999 < year then '+' :: Text.paddedNumeral 4 year.natAbs
  else Text.paddedNumeral 4 year.natAbs

/-- The characters of a moment. -/
def chars (m : Moment) : List Char :=
  yearChars m.year ++ '-' :: Text.paddedNumeral 2 m.month ++ '-' :: Text.paddedNumeral 2 m.day ++
    'T' :: Text.paddedNumeral 2 m.hour ++ ':' :: Text.paddedNumeral 2 m.minute ++
    ':' :: Text.paddedNumeral 2 m.second ++ ['Z']

/-- The text of a moment. -/
def text (m : Moment) : String := String.ofList m.chars

/-! ## Reading -/

/-- Without the blanks at the front. -/
def skip (cs : List Char) : List Char := cs.dropWhile Text.isBlank

/-- Reads a number of so many digits at most off the front. -/
def digits? (most : Nat) (cs : List Char) : Option (Nat × List Char) :=
  let ds := (cs.take most).takeWhile Char.isDigit
  (Text.natural? ds).map fun n => (n, cs.drop ds.length)

/-- Reads a number of one or two digits off the front. -/
def field? (cs : List Char) : Option (Nat × List Char) := digits? 2 (skip cs)

/-- Reads a year off the front: four digits at most, or any number of them after a sign. -/
def year? (cs : List Char) : Option (Int × List Char) :=
  match skip cs with
  | '-' :: rest => (digits? rest.length rest).map fun r => (-(r.1 : Int), r.2)
  | '+' :: rest => (digits? rest.length rest).map fun r => ((r.1 : Int), r.2)
  | rest => (digits? 4 rest).map fun r => ((r.1 : Int), r.2)

/-- Reads one of some marks off the front. -/
def mark? (marks : List Char) : List Char → Option (List Char)
  | c :: rest => if marks.contains c then some rest else none
  | [] => none

/-- The moment that characters name. -/
def ofChars? (cs : List Char) : Option Moment := do
  let (year, cs) ← year? cs
  let cs ← mark? ['-'] (skip cs)
  let (month, cs) ← field? cs
  let cs ← mark? ['-'] (skip cs)
  let (day, cs) ← field? cs
  let cs ← mark? ['T', 't', ' '] cs
  let (hour, cs) ← field? cs
  let cs ← mark? [':'] (skip cs)
  let (minute, cs) ← field? cs
  let cs ← mark? [':'] (skip cs)
  let (second, cs) ← field? cs
  let cs ← mark? ['Z', 'z'] (skip cs)
  let m : Moment := ⟨year, month, day, hour, minute, second⟩
  if (skip cs).isEmpty && m.isValid then some m else none

/-- The moment that a text names. -/
def ofText? (s : String) : Option Moment := ofChars? s.toList

end Moment

end RoundWorkflow
