/-!
# Blank characters

A character is *blank* when it has the Unicode property `White_Space`.  Names of
rounds and events may be padded with blanks on either side, so every reader of a
name trims first.  `trim` works on lists of characters, where its law is easy to
state, and `trimmed` is the same function on text.
-/

namespace RoundWorkflow.Text

/-- The characters with the property `White_Space`, as closed ranges of code points. -/
def blankRanges : List (Nat × Nat) :=
  [(0x09, 0x0D), (0x20, 0x20), (0x85, 0x85), (0xA0, 0xA0), (0x1680, 0x1680), (0x2000, 0x200A),
    (0x2028, 0x2029), (0x202F, 0x202F), (0x205F, 0x205F), (0x3000, 0x3000)]

/-- Whether a character is blank. -/
def isBlank (c : Char) : Bool :=
  blankRanges.any fun r => r.1 ≤ c.toNat && c.toNat ≤ r.2

/-- The characters without the blanks that end them. -/
def trimRight (cs : List Char) : List Char :=
  (cs.reverse.dropWhile isBlank).reverse

/-- The characters without the blanks on either side. -/
def trim (cs : List Char) : List Char :=
  trimRight (cs.dropWhile isBlank)

/-- The text without the blanks on either side. -/
def trimmed (s : String) : String :=
  String.ofList (trim s.toList)

end RoundWorkflow.Text
