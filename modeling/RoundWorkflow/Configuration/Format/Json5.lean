import RoundWorkflow.Dict
import RoundWorkflow.Json.Token
import RoundWorkflow.Text.Letter
import RoundWorkflow.Text.Number
import RoundWorkflow.Text.Scan

/-!
# Settings in JSON5

JSON5 is JSON with comments, commas after the last element, strings in single quotes,
names without quotes, and numbers in more forms.  A whole number fits 64 bits with a
sign, and one in hexadecimal digits 32 bits.  A number that is infinite, or none, has a
name of its own.
-/

namespace RoundWorkflow.Settings

namespace Json5

/-! ## Blanks -/

/-- Whether a character ends a line. -/
def isLineEnd (c : Char) : Bool := c = '\n' || c = '\r' || c.toNat = 0x2028 || c.toNat = 0x2029

/-- The blank characters beside the line ends. -/
def spaceRanges : List (Nat × Nat) :=
  [(0x09, 0x09), (0x0B, 0x0C), (0x20, 0x20), (0xA0, 0xA0), (0x1680, 0x1680), (0x2000, 0x200A),
    (0x202F, 0x202F), (0x205F, 0x205F), (0x3000, 0x3000), (0xFEFF, 0xFEFF)]

/-- Whether a character is blank. -/
def isBlank (c : Char) : Bool := isLineEnd c || Text.inRanges c.toNat spaceRanges

/-- Takes the rest of a comment that ends with its line. -/
def scanLineComment : Text.Scan Unit := do
  let _ ← Text.Scan.spanWhere fun c => !isLineEnd c

/-- Takes the rest of a comment that ends with a mark. -/
def scanLongComment : List Char → Option (Unit × List Char)
  | '*' :: '/' :: rest => some ((), rest)
  | _ :: rest => scanLongComment rest
  | [] => none

/-- Takes a comment or a run of blanks. -/
def scanBlank : Text.Scan Unit :=
  (do let _ ← Text.Scan.someWhere isBlank) <|>
  (do Text.Scan.word "//"; scanLineComment) <|>
  (do Text.Scan.word "/*"; scanLongComment)

/-- Takes blanks and comments. -/
def scanBlanks : Text.Scan Unit := do
  let _ ← Text.Scan.many scanBlank

/-- Takes what a scan takes and the blanks after it. -/
def token (p : Text.Scan α) : Text.Scan α := do
  let a ← p
  scanBlanks
  return a

/-- Takes a mark and the blanks after it. -/
def mark (c : Char) : Text.Scan Unit := token do let _ ← Text.Scan.char c

/-! ## Scalars -/

/-- Whether a character is a hexadecimal digit. -/
def isHexDigit (c : Char) : Bool :=
  c.isDigit || ('a' ≤ c && c ≤ 'f') || ('A' ≤ c && c ≤ 'F')

/-- Takes a code of so many hexadecimal digits. -/
def scanCode (length : Nat) : Text.Scan Json.Piece := do
  let digits ← Text.Scan.exactly isHexDigit length
  return .unit ((Text.basedNatural? 16 digits).getD 0)

/-- What a character stands for after a backslash. -/
def escaped (c : Char) : Char :=
  match c with
  | 'b' => '\x08'
  | 'f' => '\x0C'
  | 'n' => '\n'
  | 'r' => '\r'
  | 't' => '\t'
  | 'v' => '\x0B'
  | c => c

/-- Takes what comes after a backslash in a string; a line end is left out. -/
def scanEscape : Text.Scan (List Json.Piece) := do
  let c ← Text.Scan.charWhere fun _ => true
  if c = 'x' then return [← scanCode 2]
  else if c = 'u' then return [← scanCode 4]
  else if c = '0' then return [.char '\x00']
  else if c.isDigit then failure
  else if c = '\r' then
    let _ ← Text.Scan.optional (Text.Scan.char '\n')
    return []
  else if isLineEnd c then return []
  else return [.char (escaped c)]

/-- Takes a piece of a string in quotes of a kind. -/
def scanPiece (quote : Char) : Text.Scan (List Json.Piece) := do
  let c ← Text.Scan.charWhere fun c => c ≠ quote && !isLineEnd c
  if c = '\\' then scanEscape else return [.char c]

/-- The text of pieces; half of a pair of units must not stand alone. -/
def textOf (pieces : List (List Json.Piece)) : Text.Scan String :=
  match Json.assemble pieces.flatten with
  | some cs => return String.ofList cs
  | none => failure

/-- Takes a string. -/
def scanString : Text.Scan String := do
  let quote ← Text.Scan.charWhere fun c => c = '"' || c = '\''
  let pieces ← Text.Scan.many (scanPiece quote)
  let _ ← Text.Scan.char quote
  textOf pieces

/-- Takes a character of a name that passes a test, or the code of one. -/
def scanNameChar (test : Char → Bool) : Text.Scan (List Json.Piece) :=
  (do return [.char (← Text.Scan.charWhere test)]) <|>
  (do
    Text.Scan.word "\\u"
    return [← scanCode 4])

/-- Whether a name may begin with a character. -/
def beginsName (c : Char) : Bool := Text.isLetter c || c = '$' || c = '_'

/-- Whether a name may have a character after its beginning. -/
def isInName (c : Char) : Bool :=
  beginsName c || Text.isNamePart c || c.toNat = 0x200C || c.toNat = 0x200D

/-- Takes a name without quotes. -/
def scanName : Text.Scan String := do
  let first ← scanNameChar beginsName
  let rest ← Text.Scan.many (scanNameChar isInName)
  textOf (first :: rest)

/-- Takes the exponent of a number. -/
def scanExponent : Text.Scan (List Char) := do
  let e ← Text.Scan.charWhere fun c => c = 'e' || c = 'E'
  let sign ← Text.Scan.optional (Text.Scan.charWhere fun c => c = '+' || c = '-')
  return e :: (sign.toList ++ (← Text.Scan.someWhere Char.isDigit))

/-- Takes the digits before the point of a number; a leading zero stands alone. -/
def scanWhole : Text.Scan (List Char) := do
  match ← Text.Scan.peek? with
  | some '0' => return [← Text.Scan.char '0']
  | _ => Text.Scan.someWhere Char.isDigit

/-- Takes the digits of a number, a point among them or not. -/
def scanDigits : Text.Scan (List Char) :=
  (do
    let whole ← scanWhole
    let point ← Text.Scan.optional (Text.Scan.char '.')
    let fraction ← if point.isSome then Text.Scan.spanWhere Char.isDigit else pure []
    return whole ++ point.toList ++ fraction) <|>
  (do
    let point ← Text.Scan.char '.'
    return point :: (← Text.Scan.someWhere Char.isDigit))

/-- The number of a decimal numeral. -/
def decimal? (minus : Bool) (cs : List Char) : Option Number :=
  let signed := if minus then '-' :: cs else cs
  if cs.all Char.isDigit then
    ((Text.integer? signed).filter Text.isInt64).map .integer
  else ((Text.double? signed).filter Double.isFinite).map .double

/-- Takes a number. -/
def scanNumber : Text.Scan Json := do
  let sign ← Text.Scan.optional (Text.Scan.charWhere fun c => c = '+' || c = '-')
  let minus := sign = some '-'
  let isHexadecimal ← Text.Scan.taken (Text.Scan.word "0x" <|> Text.Scan.word "0X")
  if isHexadecimal then
    let digits ← Text.Scan.someWhere isHexDigit
    match sign, (Text.basedNatural? 16 digits).filter (· < UInt32.size) with
    | none, some n => return .nat n
    | _, _ => failure
  else if ← Text.Scan.taken (Text.Scan.word "Infinity") then
    if sign = some '+' then failure
    return .number (.double (Double.ofMagnitude minus Double.infinityBits))
  else if ← Text.Scan.taken (Text.Scan.word "NaN") then
    if sign = some '+' then failure
    return .number (.double Double.nan)
  else
    let digits ← scanDigits
    let exponent ← Text.Scan.optional scanExponent
    match decimal? minus (digits ++ exponent.getD []) with
    | some n => return .number n
    | none => failure

/-- Takes a value without parts. -/
def scanScalar : Text.Scan Json :=
  (do Text.Scan.word "null"; return .null) <|>
  (do Text.Scan.word "true"; return .bool true) <|>
  (do Text.Scan.word "false"; return .bool false) <|>
  (do return .string (← scanString)) <|>
  scanNumber

/-! ## Values -/

/-- Takes elements with commas between them, and maybe after the last, up to a mark. -/
def scanElements (element : Text.Scan α) (close : Char) : Text.Scan (List α) := do
  match ← Text.Scan.optional element with
  | none =>
    mark close
    return []
  | some first =>
    let rest ← Text.Scan.many do
      mark ','
      element
    let _ ← Text.Scan.optional (mark ',')
    mark close
    return first :: rest

/-- Takes a value of some depth and the blanks after it. -/
def scanValue : Nat → Text.Scan Json
  | 0 => failure
  | depth + 1 => do
    match ← Text.Scan.peek? with
    | some '[' =>
      mark '['
      return .array (← scanElements (scanValue depth) ']')
    | some '\x7b' =>
      mark '\x7b'
      let member : Text.Scan (String × Json) := do
        let name ← token (scanName <|> scanString)
        mark ':'
        return (name, ← scanValue depth)
      return .object (Dict.ofList (← scanElements member '\x7d')).entries
    | _ => token scanScalar

end Json5

/-- The tree of settings of a JSON5 text. -/
def ofJson5? (text : String) : Option Json :=
  (do Json5.scanBlanks; Json5.scanValue (text.length + 1) : Text.Scan Json).whole? text

end RoundWorkflow.Settings
