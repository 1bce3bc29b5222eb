import RoundWorkflow.Json
import RoundWorkflow.Yaml.Scalar
import RoundWorkflow.Yaml.Lines

/-!
# Writing YAML

A value is written in block style: an item or a member a line, members two spaces
deeper than the map that holds theirs, and a list that is the value of a key in the
column of that key.  An empty list is `[]` and an empty map `{}`.  A key of several
lines, or a very long one, stands behind a question mark, and its value on a line of
its own behind a colon.

A string is written plainly when it reads back as itself.  One that would read back
as something other than text, or be taken apart by a mark inside it, stands in
single quotes; one with characters that do not show stands in double quotes, where
they are escaped; and one of several lines is a block of its own.  A separator ends a
line as well, but does not call for a block.
-/

namespace RoundWorkflow.Yaml

/-! ## Scalars -/

/-- How a string is written. -/
inductive Writing where
  | plain
  | single
  | double
  /-- A block of lines. -/
  | block
  deriving DecidableEq, Repr, Inhabited

/-- Whether a string would be read back as something other than text. -/
def isAmbiguous (s : String) : Bool :=
  match meaning s with
  | .text _ => isDigitCode s.toList
  | _ => true

/-- Whether a character can be written without an escape. -/
def isWritable (c : Char) : Bool :=
  let n := c.toNat
  n = 0x0A || (0x20 ≤ n && n ≤ 0x7E) || (0xA0 ≤ n && n ≤ 0xFFFD && n ≠ 0xFEFF) || 0x10000 ≤ n

/-- Whether a written character ends its line. -/
def endsLine (c : Char) : Bool := Edition.early.isBreak c

/-- Whether a mark would take a string apart.  `before` is the character that comes before the
rest. -/
def isTakenApart (before : Option Char) : List Char → Bool
  | [] => false
  | c :: rest =>
    let isAlone := Edition.early.isGap rest.head?
    let first := before.isNone
    (if first then
        "#,[]\x7b\x7d&*!|>'\"%@`".toList.contains c || ((c = '?' || c = ':' || c = '-') && isAlone)
      else (c = ':' && isAlone) || (c = '#' && (before.map isSpace).getD false)) ||
      isTakenApart (some c) rest

/-- Whether the characters begin with the mark of a document. -/
def beginsAsMark (cs : List Char) : Bool :=
  cs.take 3 = ['-', '-', '-'] || cs.take 3 = ['.', '.', '.']

/-- Whether a line ends in a space. -/
def hasLineEndingInSpace : List Char → Bool
  | c :: rest => (c = ' ' && (rest.head?.map endsLine).getD false) || hasLineEndingInSpace rest
  | [] => false

/-- Whether a line after the first begins with a space. -/
def hasLineBeginningWithSpace : List Char → Bool
  | c :: rest => (endsLine c && rest.head? = some ' ') || hasLineBeginningWithSpace rest
  | [] => false

/-- How a string is written. -/
def writing (s : String) : Writing :=
  let cs := s.toList
  let atEnd := fun c => cs.getLast? = some c
  if cs.any (!isWritable ·) || hasLineEndingInSpace cs then .double
  else if cs.contains '\n' then if atEnd ' ' then .double else .block
  else if cs.any endsLine then if hasLineBeginningWithSpace cs then .double else .single
  else if isAmbiguous s || cs.head? = some ' ' || atEnd ' ' || beginsAsMark cs ||
      isTakenApart none cs then .single
  else .plain

/-- The hexadecimal digits of a number in capitals, with zeros before them up to a width. -/
def hexCode : Nat → Nat → List Char
  | 0, _ => []
  | width + 1, n =>
    let d := n % 16
    hexCode width (n / 16) ++ [if d < 10 then Char.ofNat (48 + d) else Char.ofNat (55 + d)]

/-- A character between double quotes. -/
def escapeChar (c : Char) : List Char :=
  match c.toNat with
  | 0x00 => ['\\', '0']
  | 0x07 => ['\\', 'a']
  | 0x08 => ['\\', 'b']
  | 0x09 => ['\\', 't']
  | 0x0A => ['\\', 'n']
  | 0x0B => ['\\', 'v']
  | 0x0C => ['\\', 'f']
  | 0x0D => ['\\', 'r']
  | 0x1B => ['\\', 'e']
  | 0x22 => ['\\', '"']
  | 0x5C => ['\\', '\\']
  | 0x85 => ['\\', 'N']
  | 0x2028 => ['\\', 'L']
  | 0x2029 => ['\\', 'P']
  | n =>
    if isWritable c then [c]
    else if n ≤ 0xFF then '\\' :: 'x' :: hexCode 2 n
    else if n ≤ 0xFFFF then '\\' :: 'u' :: hexCode 4 n
    else '\\' :: 'U' :: hexCode 8 n

/-- The spaces up to a column. -/
def indentation (column : Nat) : List Char := List.replicate column ' '

/-- Characters whose lines begin at a column; `atFront` tells that a line begins here. -/
def indented (column : Nat) (atFront : Bool) : List Char → List Char
  | [] => []
  | c :: rest =>
    if endsLine c then c :: indented column true rest
    else (if atFront then indentation column else []) ++ c :: indented column false rest

/-- The mark after the bar of a block that says what becomes of the line ends after it. -/
def blockMark (cs : List Char) : List Char :=
  match cs.reverse with
  | [c] => if endsLine c then ['+'] else ['-']
  | c :: d :: _ => if !endsLine c then ['-'] else if endsLine d then ['+'] else []
  | [] => ['-']

/-- Whether the characters end with the end of a line. -/
def atLineEnd (cs : List Char) : Bool := (cs.getLast?.map endsLine).getD false

/-- Characters with the end of their last line. -/
def ended (cs : List Char) : List Char := if atLineEnd cs then cs else cs ++ ['\n']

/-- A block of lines at a column. -/
def blockText (column : Nat) (cs : List Char) : List Char :=
  let hint := if (cs.head?.map fun c => c = ' ' || endsLine c).getD false then ['2'] else []
  '|' :: (hint ++ blockMark cs) ++ '\n' :: indented column true cs

/-- A string in single quotes, its lines after the first at a column. -/
def singleText (column : Nat) (cs : List Char) : List Char :=
  let body := indented column false cs ++ if atLineEnd cs then indentation column else []
  '\'' :: (body.flatMap (fun c => if c = '\'' then ['\'', '\''] else [c]) ++ ['\''])

/-- A string; lines after the first would stand at a column. -/
def stringText (column : Nat) (s : String) : List Char :=
  match writing s with
  | .plain => s.toList
  | .single => singleText column s.toList
  | .double => '"' :: (s.toList.flatMap escapeChar ++ ['"'])
  | .block => blockText column s.toList

/-- A value without parts. -/
def scalarText (column : Nat) : Json → List Char
  | .string s => stringText column s
  | .array _ => "[]".toList
  | .object _ => "\x7b\x7d".toList
  | .number (.double d) =>
    if d.isFinite then d.dataText
    else if Double.infinityBits < d.magnitude then ".nan".toList
    else (if d.isNegative then "-.inf" else ".inf").toList
  | j => j.scalarText

/-! ## Collections -/

/-- The greatest number of bytes of a key that stands before its value. -/
def maxKeyLength : Nat := 128

/-- Whether a key stands on one line with the colon after it. -/
def isSimpleKey (k : String) : Bool :=
  !k.toList.any (fun c => endsLine c || c = '\r' || c.toNat = 0x85) && k.utf8ByteSize ≤ maxKeyLength

/-- A key that stands at a column, and the colon after it. -/
def keyChars (column : Nat) (k : String) : List Char :=
  if isSimpleKey k then stringText (column + 2) k ++ [':']
  else '?' :: ' ' :: (ended (stringText (column + 2) k) ++ indentation column ++ [':'])

/-- What comes between a colon and a collection at a column: a line end, unless the colon has a line
of its own. -/
def lead (simple : Bool) (column : Nat) : List Char :=
  if simple then '\n' :: indentation column else [' ']

mutual

/-- The lines of a value that stands at a column, without the spaces before the first. -/
def blockChars (column : Nat) : Json → List Char
  | .array (j :: rest) => '-' :: ' ' :: (blockChars (column + 2) j ++ itemLines column rest)
  | .object ((k, j) :: rest) =>
    keyChars column k ++ valueChars (isSimpleKey k) column j ++ memberLines column rest
  | j => ended (scalarText column j)

/-- The lines of further items. -/
def itemLines (column : Nat) : List Json → List Char
  | [] => []
  | j :: rest =>
    indentation column ++ '-' :: ' ' :: (blockChars (column + 2) j ++ itemLines column rest)

/-- The value of a key that stands at a column, after the colon. -/
def valueChars (simple : Bool) (column : Nat) : Json → List Char
  | .array (j :: rest) =>
    let inner := if simple then column else column + 2
    lead simple inner ++ '-' :: ' ' :: (blockChars (inner + 2) j ++ itemLines inner rest)
  | .object ((k, j) :: rest) =>
    lead simple (column + 2) ++ keyChars (column + 2) k ++
      valueChars (isSimpleKey k) (column + 2) j ++
      memberLines (column + 2) rest
  | j => ' ' :: ended (scalarText (column + 2) j)

/-- The lines of further members. -/
def memberLines (column : Nat) : List (String × Json) → List Char
  | [] => []
  | (k, j) :: rest =>
    indentation column ++ keyChars column k ++ valueChars (isSimpleKey k) column j ++
      memberLines column rest

end

/-- The text of a value as a document. -/
def text (j : Json) : String := String.ofList (blockChars 0 j)

end RoundWorkflow.Yaml
