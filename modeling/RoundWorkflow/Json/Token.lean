import RoundWorkflow.Json

/-!
# The tokens of a JSON text

A text is cut into tokens by one pass over its characters.  The state of the pass
(`Scan`) says whether it stands between tokens or inside a string, an escape, a
word or a number, and holds the tokens found so far.  `tokens?` is the whole
pass.  It fails on a character that cannot stand where it stands, on a control
character inside a string, and on a word or a number outside the grammar.

Inside a string an escape `\uXXXX` names a UTF-16 unit.  Units are put together
at the end of the string (`assemble`): two halves of a surrogate pair make one
character, and a half alone makes the string unreadable.

A number that is no whole number of 64 bits is a double, read by `Double.ofSignificand`
from the digits that fit 64 bits.
-/

namespace RoundWorkflow.Json

/-- A token. -/
inductive Token where
  | openArray
  | closeArray
  | openObject
  | closeObject
  | comma
  | colon
  /-- A string; nothing when it names half of a surrogate pair. -/
  | text (value : Option String)
  /-- A number, a truth value or null. -/
  | scalar (value : Json)
  deriving Inhabited

/-! ## Strings -/

/-- A piece of a string: a character, or a UTF-16 unit that an escape names. -/
inductive Piece where
  | char (c : Char)
  | unit (n : Nat)
  deriving Inhabited

/-- Whether a unit is the first half of a pair. -/
def isHighHalf (n : Nat) : Bool := 0xD800 ≤ n && n < 0xDC00

/-- Whether a unit is the second half of a pair. -/
def isLowHalf (n : Nat) : Bool := 0xDC00 ≤ n && n < 0xE000

/-- The characters of a string; nothing when half of a pair stands alone. -/
def assemble : List Piece → Option (List Char)
  | [] => some []
  | .char c :: rest => (assemble rest).map (c :: ·)
  | .unit high :: .unit low :: rest =>
    if isHighHalf high then
      if isLowHalf low then
        (assemble rest).map (Char.ofNat (0x10000 + (high - 0xD800) * 0x400 + (low - 0xDC00)) :: ·)
      else none
    else if isLowHalf high then none
    else (assemble (.unit low :: rest)).map (Char.ofNat high :: ·)
  | .unit n :: rest =>
    if isHighHalf n || isLowHalf n then none else (assemble rest).map (Char.ofNat n :: ·)

/-- The character that a one-letter escape stands for. -/
def simpleEscape? (c : Char) : Option Char :=
  match c with
  | '"' => some '"'
  | '\\' => some '\\'
  | '/' => some '/'
  | 'b' => some (Char.ofNat 8)
  | 'f' => some (Char.ofNat 12)
  | 'n' => some '\n'
  | 'r' => some '\r'
  | 't' => some '\t'
  | _ => none

/-- The value of a hexadecimal digit. -/
def hexValue? (c : Char) : Option Nat :=
  if '0' ≤ c ∧ c ≤ '9' then some (c.toNat - 48)
  else if 'a' ≤ c ∧ c ≤ 'f' then some (c.toNat - 87)
  else if 'A' ≤ c ∧ c ≤ 'F' then some (c.toNat - 55)
  else none

/-! ## Numbers and words -/

/-- The double of a value, unless it is beyond the range. -/
def ofDouble (d : Double) : Json :=
  if d.isFinite then .number (.double d) else .unreadable

/-- The number that digits continue while it fits 64 bits, and the digits from the first one on with
which it does not. -/
def fittingDigits (n : Nat) : List Char → Nat × List Char
  | [] => (n, [])
  | c :: cs =>
    let next := 10 * n + Text.digitValue c
    if next < UInt64.size then fittingDigits next cs else (n, c :: cs)

/-- The double that a numeric literal denotes.  Digits before the point that do not fit 64 bits
count as zeros, and digits after the point that do not fit are dropped. -/
def literalDouble (negative : Bool) (l : Double.Literal) : Double :=
  let fraction := l.fraction.getD []
  let (n, beyond) := fittingDigits 0 l.whole
  let (n, dropped) := fittingDigits n fraction
  .ofSignificand negative n (beyond.length - (fraction.length - dropped.length) + l.exponentValue)

/-- The whole number of a value that fits 64 bits; one below the least of them is a double, and so
is zero with a sign. -/
def ofWhole (negative : Bool) (n : Nat) : Json :=
  if !negative then .number (.integer n)
  else if 0 < n ∧ n ≤ Nat.pow 2 63 then .number (.integer (-n))
  else ofDouble (.ofSignificand true n 0)

/-- Whether the digits before the point are in the grammar: no zero before another digit. -/
def wholePartOk (ds : List Char) : Bool :=
  match ds with
  | [] => false
  | ['0'] => true
  | d :: _ => d ≠ '0'

/-- The number that a text without a sign denotes. -/
def unsignedNumber? (negative : Bool) (cs : List Char) : Option Json :=
  let literal := Double.Literal.ofText cs
  let n := Text.digitsValue 0 literal.whole
  if !literal.isNumeric || !wholePartOk literal.whole || literal.fraction = some [] then none
  else if literal.fraction.isNone && literal.exponent.isNone && n < UInt64.size then
    some (ofWhole negative n)
  else some (ofDouble (literalDouble negative literal))

/-- The number that a text denotes. -/
def number? : List Char → Option Json
  | '-' :: cs => unsignedNumber? true cs
  | cs => unsignedNumber? false cs

/-- The value that a bare word denotes. -/
def word? (cs : List Char) : Option Json :=
  match String.ofList cs with
  | "true" => some (.bool true)
  | "false" => some (.bool false)
  | "null" => some .null
  | _ => none

/-! ## The pass -/

/-- Where the pass stands.  Characters and pieces read so far are newest first. -/
inductive Mode where
  | between
  | text (pieces : List Piece)
  | escape (pieces : List Piece)
  /-- Inside `\uXXXX`: the value so far and the number of digits that are due. -/
  | unit (pieces : List Piece) (value due : Nat)
  | word (letters : List Char)
  | number (chars : List Char)
  deriving Inhabited

/-- The state of the pass: where it stands, and the tokens so far, newest first. -/
structure Scan where
  /-- Where the pass stands. -/
  mode : Mode
  /-- The tokens so far, newest first. -/
  tokens : List Token
  deriving Inhabited

/-- Whether a character may stand in a number. -/
def isNumberChar (c : Char) : Bool :=
  c.isDigit || c = '-' || c = '+' || c = '.' || c = 'e' || c = 'E'

/-- A character between tokens. -/
def stepBetween (tokens : List Token) (c : Char) : Option Scan :=
  match c with
  | ' ' | '\t' | '\n' | '\r' => some ⟨.between, tokens⟩
  | '[' => some ⟨.between, .openArray :: tokens⟩
  | ']' => some ⟨.between, .closeArray :: tokens⟩
  | '{' => some ⟨.between, .openObject :: tokens⟩
  | '}' => some ⟨.between, .closeObject :: tokens⟩
  | ',' => some ⟨.between, .comma :: tokens⟩
  | ':' => some ⟨.between, .colon :: tokens⟩
  | '"' => some ⟨.text [], tokens⟩
  | '-' => some ⟨.number ['-'], tokens⟩
  | c =>
    if c.isDigit then some ⟨.number [c], tokens⟩
    else if c.isAlpha then some ⟨.word [c], tokens⟩
    else none

/-- One character. -/
def Scan.step (s : Scan) (c : Char) : Option Scan :=
  match s.mode with
  | .between => stepBetween s.tokens c
  | .text pieces =>
    if c = '"' then some ⟨.between, .text ((assemble pieces.reverse).map String.ofList) :: s.tokens⟩
    else if c = '\\' then some ⟨.escape pieces, s.tokens⟩
    else if c.toNat < 32 then none
    else some ⟨.text (.char c :: pieces), s.tokens⟩
  | .escape pieces =>
    if c = 'u' then some ⟨.unit pieces 0 4, s.tokens⟩
    else (simpleEscape? c).map fun e => ⟨.text (.char e :: pieces), s.tokens⟩
  | .unit pieces value due =>
    (hexValue? c).map fun h =>
      if due ≤ 1 then ⟨.text (.unit (16 * value + h) :: pieces), s.tokens⟩
      else ⟨.unit pieces (16 * value + h) (due - 1), s.tokens⟩
  | .word letters =>
    if c.isAlpha then some ⟨.word (c :: letters), s.tokens⟩
    else (word? letters.reverse).bind fun j => stepBetween (.scalar j :: s.tokens) c
  | .number chars =>
    if isNumberChar c then some ⟨.number (c :: chars), s.tokens⟩
    else (number? chars.reverse).bind fun j => stepBetween (.scalar j :: s.tokens) c

/-- All characters in turn. -/
def Scan.run (s : Scan) : List Char → Option Scan
  | [] => some s
  | c :: cs =>
    match s.step c with
    | some s' => s'.run cs
    | none => none

/-- The end of the text: a word or a number is complete, a string is not. -/
def Scan.finish (s : Scan) : Option (List Token) :=
  match s.mode with
  | .between => some s.tokens.reverse
  | .word letters => (word? letters.reverse).map fun j => (.scalar j :: s.tokens).reverse
  | .number chars => (number? chars.reverse).map fun j => (.scalar j :: s.tokens).reverse
  | _ => none

/-- The tokens of a text. -/
def tokens? (cs : List Char) : Option (List Token) :=
  (Scan.run ⟨.between, []⟩ cs).bind Scan.finish

end RoundWorkflow.Json
