/-!
# Scanning from the front of a text

A scan takes something off the front of the characters that are still to be read, or
fails.  One scan after another is a scan again, and of two alternatives the second is
tried where the first fails.

A scan is repeated for as long as it takes something (`many`).  The characters to be
read bound the repetitions, so that every scan comes to an end.
-/

namespace RoundWorkflow.Text

/-- Takes something off the front of a text, or fails. -/
abbrev Scan := StateT (List Char) Option

namespace Scan

/-- The next character, which is not taken. -/
def peek? : Scan (Option Char) := fun cs => some (cs.head?, cs)

/-- Takes a character that passes a test. -/
def charWhere (test : Char → Bool) : Scan Char
  | c :: rest => if test c then some (c, rest) else none
  | [] => none

/-- Takes a character. -/
def char (c : Char) : Scan Char := charWhere (· = c)

/-- Takes the characters of a word. -/
def word (s : String) : Scan Unit := fun cs =>
  if s.toList.isPrefixOf cs then some ((), cs.drop s.length) else none

/-- Takes the characters up to the first that a test refuses. -/
def spanWhere (test : Char → Bool) : Scan (List Char) := fun cs =>
  some (cs.takeWhile test, cs.dropWhile test)

/-- Takes one or more characters, up to the first that a test refuses. -/
def someWhere (test : Char → Bool) : Scan (List Char) := do
  let taken ← spanWhere test
  if taken.isEmpty then failure else return taken

/-- Takes so many characters, each of which passes a test. -/
def exactly (test : Char → Bool) (n : Nat) : Scan (List Char) := fun cs =>
  if (cs.take n).length = n ∧ (cs.take n).all test then some (cs.take n, cs.drop n) else none

/-- What a scan takes, if it does not fail. -/
def optional (p : Scan α) : Scan (Option α) := (do return some (← p)) <|> pure none

/-- Whether a scan takes something. -/
def taken (p : Scan α) : Scan Bool := do return (← optional p).isSome

/-- Whether nothing is left. -/
def atEnd : Scan Bool := fun cs => some (cs.isEmpty, cs)

/-- Nothing may be left. -/
def finish : Scan Unit := do
  if !(← atEnd) then failure

/-- Repeats a scan, so often at most. -/
def upTo (p : Scan α) : Nat → Scan (List α)
  | 0 => pure []
  | n + 1 => do
    match ← optional p with
    | some a => return a :: (← upTo p n)
    | none => return []

/-- Repeats a scan until it fails. -/
def many (p : Scan α) : Scan (List α) := fun cs => upTo p cs.length cs

/-- The result of a scan that has to take the whole text. -/
def whole? (p : Scan α) (s : String) : Option α :=
  ((do let a ← p; finish; return a : Scan α).run s.toList).map Prod.fst

end Scan

end RoundWorkflow.Text
