import RoundWorkflow.Yaml

/-!
# Characters and places of a YAML text

All ways to end a line are made into one before a text is read (`normalized`): a carriage
return and a line feed count as one line end, and so does either alone.  The early edition
knows three more line ends.  The next-line character is like a line feed.  The line and
the paragraph separator end a line too, but stay in a scalar as they are.
-/

namespace RoundWorkflow.Yaml

/-! ## Characters -/

/-- Whether a character is a space or a tab. -/
def isSpace (c : Char) : Bool := c = ' ' || c = '\t'

/-- Whether a character separates lines without being a line feed. -/
def isSeparator (c : Char) : Bool := c.toNat = 0x2028 || c.toNat = 0x2029

/-- Whether a character of a normalized text ends a line. -/
def Edition.isBreak (e : Edition) (c : Char) : Bool := c = '\n' || (e = .early && isSeparator c)

/-- Whether a word or a mark may end before this character, or at the end of the text. -/
def Edition.isGap (e : Edition) : Option Char → Bool
  | none => true
  | some c => isSpace c || e.isBreak c

/-- Whether the text ends or a line does. -/
def Edition.isLineEnd (e : Edition) : Option Char → Bool
  | none => true
  | some c => e.isBreak c

/-- Whether a character is a mark of a collection in brackets. -/
def isFlowMark (c : Char) : Bool := c = ',' || c = '[' || c = ']' || c = '{' || c = '}'

/-- Whether a character is a letter, a digit, a dash or an underscore of ASCII. -/
def isWordChar (c : Char) : Bool := c.isAlphanum || c = '-' || c = '_'

/-- The mark that may stand before a text to tell its encoding. -/
def byteOrderMark : Char := Char.ofNat 0xFEFF

/-- Whether a character may occur in a text of the early edition. -/
def isPrintable (c : Char) : Bool :=
  let n := c.toNat
  n = 0x09 || n = 0x0A || n = 0x0D || (0x20 ≤ n && n ≤ 0x7E) || n = 0x85 ||
    (0xA0 ≤ n && n ≤ 0xFFFD) ||
    0x10000 ≤ n

/-- The bytes before the first character that may not occur, if there is one. -/
def controlOffset? (offset : Nat) : List Char → Option Nat
  | [] => none
  | c :: rest => if isPrintable c then controlOffset? (offset + c.utf8Size) rest else some offset

/-! ## Lines -/

/-- The text with one character for every line end. -/
def normalized (e : Edition) : List Char → List Char
  | [] => []
  | '\r' :: '\n' :: rest => '\n' :: normalized e rest
  | c :: rest =>
    (if c = '\r' || (e = .early && c.toNat = 0x85) then '\n' else c) :: normalized e rest

/-- What folding makes of the line ends between two lines: the first becomes a space if it is the
only one and is left out otherwise.  A separator stays. -/
def folded : List Char → List Char
  | ['\n'] => [' ']
  | '\n' :: rest => rest
  | cs => cs

/-- Whether the mark of a document stands at the front of a line. -/
def Edition.atDocumentMark (e : Edition) : List Char → Bool
  | '-' :: '-' :: '-' :: rest => e.isGap rest.head?
  | '.' :: '.' :: '.' :: rest => e.isGap rest.head?
  | _ => false

/-! ## Places -/

/-- A place of a text. -/
structure Position where
  /-- The units before it: bytes in the early edition, characters in the late one. -/
  index : Nat
  /-- The line, counted from zero. -/
  line : Nat
  /-- The column, counted from zero. -/
  column : Nat
  deriving DecidableEq, Repr, Inhabited

/-- The first place of a text. -/
def Position.start : Position := ⟨0, 0, 0⟩

/-- The place after a character. -/
def Position.after (e : Edition) (p : Position) (c : Char) : Position :=
  let index := p.index + if e = .early then c.utf8Size else 1
  if e.isBreak c then ⟨index, p.line + 1, 0⟩ else ⟨index, p.line, p.column + 1⟩

/-- A deviation from the grammar at a place. -/
def Position.fault (p : Position) : Fault := .problem .ungrammatical p.line p.column

/-- Characters still to be read, and the place of the first of them. -/
structure Cursor where
  /-- The place of the first character. -/
  position : Position
  /-- The characters. -/
  rest : List Char
  deriving Inhabited

namespace Cursor

/-- The first character. -/
def head? (c : Cursor) : Option Char := c.rest.head?

/-- The second character. -/
def next? (c : Cursor) : Option Char := c.rest.tail.head?

/-- The column of the first character. -/
def column (c : Cursor) : Nat := c.position.column

/-- Without the first character. -/
def advance (e : Edition) (c : Cursor) : Cursor :=
  match c.rest with
  | [] => c
  | x :: rest => ⟨c.position.after e x, rest⟩

/-- Without the first characters, so many. -/
def advanceBy (e : Edition) : Nat → Cursor → Cursor
  | 0, c => c
  | n + 1, c => advanceBy e n (c.advance e)

/-- The characters up to the first that a test refuses, and what comes after them. -/
def span (e : Edition) (test : Char → Bool) (c : Cursor) : List Char × Cursor :=
  let taken := c.rest.takeWhile test
  (taken, c.advanceBy e taken.length)

end Cursor

end RoundWorkflow.Yaml
