import RoundWorkflow.Text.Double
import RoundWorkflow.Dict

/-!
# JSON values and their text

Values of the store, documents and answers are JSON values.  An object keeps its
members in order and keeps repeated keys, because some documents list the same
key twice and the second must not hide the first.  Whole numbers of 64 bits are
exact (`Number.integer`), every other number is a `Double`.

`Json.unreadable` stands for a piece of text that the grammar admits and that
denotes nothing: a string with half of a surrogate pair, or a number beyond the
range of doubles.  A reader that passes over a value accepts it, and a reader
that wants the value does not.  An object in which such a string is a key is
`Json.cutShort`: a reader gets no further than to the member before it.

`compact` and `pretty` write a value.  The pretty layout puts every element on a
line of its own, two spaces deeper than its container, and keeps an empty
container on one line.
-/

namespace RoundWorkflow

/-- A number of a JSON document. -/
inductive Number where
  /-- A whole number that fits 64 bits, with or without a sign. -/
  | integer (value : Int)
  /-- Any other number. -/
  | double (value : Double)
  deriving DecidableEq, Repr, Inhabited

/-- A JSON value. -/
inductive Json where
  | null
  | bool (value : Bool)
  | number (value : Number)
  | string (value : String)
  | array (items : List Json)
  | object (members : List (String × Json))
  /-- Well-formed text that denotes no value. -/
  | unreadable
  /-- An object up to a key that denotes nothing. -/
  | cutShort (members : List (String × Json))
  deriving Inhabited

namespace Json

/-! ## Construction and access -/

/-- A whole number. -/
def nat (n : Nat) : Json := .number (.integer n)

/-- The null value in place of no value. -/
def ofOption (encode : α → Json) : Option α → Json
  | none => .null
  | some a => encode a

/-- The array of a list. -/
def ofList (encode : α → Json) (xs : List α) : Json := .array (xs.map encode)

/-- The object of a map, its members in ascending order of their keys. -/
def ofDict (encode : α → Json) (d : Dict α) : Json :=
  .object (d.entries.map fun e => (e.1, encode e.2))

/-- The last member of an object with a key. -/
def member? (key : String) : Json → Option Json
  | .object members => (members.reverse.find? fun m => m.1 = key).map Prod.snd
  | _ => none

mutual

/-- The value with the members of every object in ascending order of their keys, the last of a key
kept. -/
def sorted : Json → Json
  | .array items => .array (sortedItems items)
  | .object members => .object (Dict.ofList (sortedMembers members)).entries
  | j => j

/-- `sorted` on the elements of an array. -/
def sortedItems : List Json → List Json
  | [] => []
  | j :: rest => j.sorted :: sortedItems rest

/-- `sorted` on the members of an object. -/
def sortedMembers : List (String × Json) → List (String × Json)
  | [] => []
  | (k, j) :: rest => (k, j.sorted) :: sortedMembers rest

end

mutual

/-- The number of containers around the innermost value. -/
def depth : Json → Nat
  | .array items => depthItems items + 1
  | .object members => depthMembers members + 1
  | _ => 0

/-- `depth` on the elements of an array. -/
def depthItems : List Json → Nat
  | [] => 0
  | j :: rest => max j.depth (depthItems rest)

/-- `depth` on the members of an object. -/
def depthMembers : List (String × Json) → Nat
  | [] => 0
  | (_, j) :: rest => max j.depth (depthMembers rest)

end

mutual

/-- Whether every part of the value denotes something. -/
def readable : Json → Bool
  | .unreadable | .cutShort _ => false
  | .array items => readableItems items
  | .object members => readableMembers members
  | _ => true

/-- `readable` on the elements of an array. -/
def readableItems : List Json → Bool
  | [] => true
  | j :: rest => j.readable && readableItems rest

/-- `readable` on the members of an object. -/
def readableMembers : List (String × Json) → Bool
  | [] => true
  | (_, j) :: rest => j.readable && readableMembers rest

end

/-! ## Text -/

/-- The hexadecimal digit of a number below sixteen. -/
def hexDigit (n : Nat) : Char :=
  if n < 10 then Char.ofNat (48 + n) else Char.ofNat (87 + n)

/-- A character inside a string: quote, backslash and control characters are escaped. -/
def escapeChar (c : Char) : List Char :=
  if c = '"' then ['\\', '"']
  else if c = '\\' then ['\\', '\\']
  else if c = '\n' then ['\\', 'n']
  else if c = '\r' then ['\\', 'r']
  else if c = '\t' then ['\\', 't']
  else if c.toNat = 8 then ['\\', 'b']
  else if c.toNat = 12 then ['\\', 'f']
  else if c.toNat < 32 then ['\\', 'u', '0', '0', hexDigit (c.toNat / 16), hexDigit (c.toNat % 16)]
  else [c]

/-- A string in quotes. -/
def quoted (s : String) : List Char :=
  '"' :: (s.toList.flatMap escapeChar ++ ['"'])

/-- The text of a number. -/
def numberText : Number → List Char
  | .integer i => Text.integerText i
  | .double d => if d.isFinite then d.dataText else "null".toList

/-- The text of a value without parts. -/
def scalarText : Json → List Char
  | .bool true => "true".toList
  | .bool false => "false".toList
  | .number n => numberText n
  | .string s => quoted s
  | _ => "null".toList

mutual

/-- The text of a value without spaces. -/
def compactChars : Json → List Char
  | .array items => '[' :: (compactItems items ++ [']'])
  | .object members => '{' :: (compactMembers members ++ ['}'])
  | j => j.scalarText

/-- The elements of an array, a comma between two. -/
def compactItems : List Json → List Char
  | [] => []
  | [j] => j.compactChars
  | j :: rest => j.compactChars ++ ',' :: compactItems rest

/-- The members of an object, a comma between two. -/
def compactMembers : List (String × Json) → List Char
  | [] => []
  | [(k, j)] => quoted k ++ ':' :: j.compactChars
  | (k, j) :: rest => quoted k ++ ':' :: (j.compactChars ++ ',' :: compactMembers rest)

end

/-- A line end and the indentation of a level. -/
def newLine (level : Nat) : List Char :=
  '\n' :: List.replicate (2 * level) ' '

mutual

/-- The text of a value in the pretty layout, its container at a level. -/
def prettyChars (level : Nat) : Json → List Char
  | .array [] => "[]".toList
  | .array items => '[' :: (prettyItems (level + 1) items ++ newLine level ++ [']'])
  | .object [] => "\x7b\x7d".toList
  | .object members => '{' :: (prettyMembers (level + 1) members ++ newLine level ++ ['}'])
  | j => j.scalarText

/-- The elements of an array, each on its own line. -/
def prettyItems (level : Nat) : List Json → List Char
  | [] => []
  | [j] => newLine level ++ prettyChars level j
  | j :: rest => newLine level ++ prettyChars level j ++ ',' :: prettyItems level rest

/-- The members of an object, each on its own line. -/
def prettyMembers (level : Nat) : List (String × Json) → List Char
  | [] => []
  | [(k, j)] => newLine level ++ quoted k ++ ':' :: ' ' :: prettyChars level j
  | (k, j) :: rest =>
    newLine level ++ quoted k ++ ':' :: ' ' ::
      (prettyChars level j ++ ',' :: prettyMembers level rest)

end

/-- The text of a value without spaces. -/
def compact (j : Json) : String := String.ofList j.compactChars

/-- The text of a value, an element a line. -/
def pretty (j : Json) : String := String.ofList (j.prettyChars 0)

end Json

end RoundWorkflow
