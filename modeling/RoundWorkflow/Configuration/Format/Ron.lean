import RoundWorkflow.Dict
import RoundWorkflow.Json
import RoundWorkflow.Text.Number
import RoundWorkflow.Text.Scan

/-!
# Settings in RON

RON writes maps with braces, lists with brackets, and records and tuples with
parentheses, maybe with a name before them.  A record is a map and a tuple a list.  A
name alone and empty parentheses stand for nothing, and so does `None`, while `Some`
stands for what it is given.  A character is a text.

The text may begin with attributes, which change nothing here.  A value that is no map
has no settings.
-/

namespace RoundWorkflow.Settings

namespace Ron

/-! ## Blanks -/

/-- Whether a character is blank. -/
def isBlank (c : Char) : Bool := c = ' ' || c = '\t' || c = '\n' || c = '\r'

/-- Takes the rest of a comment that ends with a mark, inside of so many others. -/
def scanLongComment : Nat → List Char → Option (Unit × List Char)
  | depth, '/' :: '*' :: rest => scanLongComment (depth + 1) rest
  | 0, '*' :: '/' :: rest => some ((), rest)
  | depth + 1, '*' :: '/' :: rest => scanLongComment depth rest
  | depth, _ :: rest => scanLongComment depth rest
  | _, [] => none

/-- Takes a comment or a run of blanks. -/
def scanBlank : Text.Scan Unit :=
  (do let _ ← Text.Scan.someWhere isBlank) <|>
  (do
    Text.Scan.word "//"
    let _ ← Text.Scan.spanWhere (· ≠ '\n')) <|>
  (do
    Text.Scan.word "/*"
    scanLongComment 0)

/-- Takes blanks and comments. -/
def scanBlanks : Text.Scan Unit := do
  let _ ← Text.Scan.many scanBlank

/-- Takes a mark and the blanks on both sides of it. -/
def mark (c : Char) : Text.Scan Unit := do
  scanBlanks
  let _ ← Text.Scan.char c
  scanBlanks

/-! ## Names -/

/-- Whether a name may begin with a character. -/
def beginsName (c : Char) : Bool := c.isAlpha || c = '_'

/-- Whether a name may have a character after its beginning. -/
def isInName (c : Char) : Bool := c.isAlphanum || c = '_'

/-- Whether a name after a mark of its own may have a character. -/
def isInRawName (c : Char) : Bool := isInName c || c = '.' || c = '+' || c = '-'

/-- Takes a name that has a mark of its own. -/
def scanRawName : Text.Scan String := do
  Text.Scan.word "r#"
  return String.ofList (← Text.Scan.someWhere isInRawName)

/-- Takes a name; it must not go on as one with a mark of its own would, nor begin a raw string. -/
def scanName : Text.Scan String :=
  scanRawName <|> do
    let first ← Text.Scan.charWhere beginsName
    let rest ← Text.Scan.spanWhere isInName
    match ← Text.Scan.peek? with
    | some c =>
      if isInRawName c || (first = 'r' && rest.isEmpty && (c = '"' || c = '#')) then failure
    | none => pure ()
    return String.ofList (first :: rest)

/-- Takes a word that does not go on as a name. -/
def keyword (s : String) : Text.Scan Unit := do
  Text.Scan.word s
  match ← Text.Scan.peek? with
  | some c => if isInName c then failure
  | none => pure ()

/-! ## Texts -/

/-- Whether a character is a hexadecimal digit. -/
def isHexDigit (c : Char) : Bool :=
  c.isDigit || ('a' ≤ c && c ≤ 'f') || ('A' ≤ c && c ≤ 'F')

/-- The character with a number in hexadecimal digits. -/
def numbered (digits : List Char) : Text.Scan Char :=
  match Text.basedNatural? 16 digits with
  | some n => if n.isValidChar then return Char.ofNat n else failure
  | none => failure

/-- Takes what comes after a backslash. -/
def scanEscape : Text.Scan Char := do
  let c ← Text.Scan.charWhere fun _ => true
  match c with
  | '\'' | '"' | '\\' => return c
  | 'n' => return '\n'
  | 'r' => return '\r'
  | 't' => return '\t'
  | '0' => return '\x00'
  | 'x' => numbered (← Text.Scan.exactly isHexDigit 2)
  | 'u' =>
    let _ ← Text.Scan.char '\x7b'
    let digits ← Text.Scan.someWhere isHexDigit
    let _ ← Text.Scan.char '\x7d'
    if 6 < digits.length then failure
    numbered digits
  | _ => failure

/-- Takes a character of a text in quotes. -/
def scanChar (quote : Char) : Text.Scan Char := do
  let c ← Text.Scan.charWhere (· ≠ quote)
  if c = '\\' then scanEscape else return c

/-- Takes a text in quotes. -/
def scanQuoted : Text.Scan String := do
  let _ ← Text.Scan.char '"'
  let cs ← Text.Scan.many (scanChar '"')
  let _ ← Text.Scan.char '"'
  return String.ofList cs

/-- Takes a text up to a mark that ends it, and the mark. -/
def scanUpTo (close : List Char) : List Char → Option (List Char × List Char)
  | [] => none
  | c :: rest =>
    if close.isPrefixOf (c :: rest) then some ([], (c :: rest).drop close.length)
    else (scanUpTo close rest).map fun r => (c :: r.1, r.2)

/-- Takes a text in quotes in which a backslash is nothing special. -/
def scanRaw : Text.Scan String := do
  let _ ← Text.Scan.char 'r'
  let hashes ← Text.Scan.spanWhere (· = '#')
  let _ ← Text.Scan.char '"'
  return String.ofList (← scanUpTo ('"' :: hashes))

/-- Takes a character in quotes. -/
def scanLetter : Text.Scan String := do
  let _ ← Text.Scan.char '\''
  let c ← scanChar '\''
  let _ ← Text.Scan.char '\''
  return String.ofList [c]

/-! ## Numbers -/

/-- Whether a character may stand in a whole number of some base. -/
def isWholeChar (c : Char) : Bool := isHexDigit c || c = '_'

/-- Whether a character may stand in a decimal number. -/
def isRealChar (c : Char) : Bool :=
  c.isDigit || c = 'e' || c = 'E' || c = '.' || c = '+' || c = '-' || c = '_'

/-- The base of a number by its mark, and what comes after it. -/
def baseOf : List Char → Nat × List Char
  | '0' :: 'x' :: rest => (16, rest)
  | '0' :: 'b' :: rest => (2, rest)
  | '0' :: 'o' :: rest => (8, rest)
  | cs => (10, cs)

/-- Takes a whole number after its sign.  It fits 64 bits. -/
def scanWhole (sign : Option Char) : Text.Scan Json := do
  let (base, rest) := baseOf (← get)
  set rest
  let digits ← Text.Scan.someWhere isWholeChar
  if digits.head? = some '_' then failure
  match Text.basedNatural? base (digits.filter (· ≠ '_')) with
  | some n =>
    match sign with
    | some '-' => if n ≤ Nat.pow 2 63 then return .number (.integer (-n)) else failure
    | some _ => if n < Nat.pow 2 63 then return .nat n else failure
    | none =>
      if n < Nat.pow 2 63 then return .nat n
      else if n < UInt64.size then return .number (.integer (n - UInt64.size))
      else failure
  | none => failure

/-- Takes a decimal number. -/
def scanReal : Text.Scan Json := do
  let cs ← Text.Scan.someWhere isRealChar
  match Text.double? cs with
  | some d => return .number (.double d)
  | none => failure

/-- Takes a sign. -/
def scanSign : Text.Scan (Option Char) :=
  Text.Scan.optional (Text.Scan.charWhere fun c => c = '+' || c = '-')

/-- Takes a number.  One that is no whole number of 64 bits is decimal. -/
def scanNumber : Text.Scan Json := do
  let cs ← get
  match cs.head? with
  | some c => if !(c.isDigit || c = '+' || c = '-' || c = '.') then failure
  | none => failure
  let sign ← scanSign
  let body ← get
  let isReal := (body.takeWhile isWholeChar).length < (body.takeWhile isRealChar).length
  let whole : Text.Scan Json := if isReal then failure else scanWhole sign
  whole <|> do
    set cs
    scanReal

/-! ## Values -/

/-- Takes elements with commas between them, and maybe after the last, up to a mark. -/
def scanElements (element : Text.Scan α) (close : Char) : Text.Scan (List α) := do
  scanBlanks
  match ← Text.Scan.optional element with
  | none =>
    let _ ← Text.Scan.char close
    return []
  | some first =>
    let rest ← Text.Scan.many do
      mark ','
      element
    let _ ← Text.Scan.optional (mark ',')
    scanBlanks
    let _ ← Text.Scan.char close
    return first :: rest

/-- A map of its members, whose names have to be texts. -/
def mapping (members : List (Json × Json)) : Text.Scan Json :=
  let named? (m : Json × Json) : Option (String × Json) :=
    match m.1 with
    | .string name => some (name, m.2)
    | _ => none
  match members.mapM named? with
  | some members => return .object (Dict.ofList members).entries
  | none => failure

/-- Takes the word for a value without parts. -/
def scanWord : Text.Scan Json :=
  (do keyword "true"; return .bool true) <|>
  (do keyword "false"; return .bool false) <|>
  (do keyword "None"; return .null) <|>
  (do Text.Scan.word "()"; return .null) <|>
  (do
    keyword "inf" <|> keyword "+inf"
    return .number (.double (Double.ofMagnitude false Double.infinityBits))) <|>
  (do
    keyword "-inf"
    return .number (.double (Double.ofMagnitude true Double.infinityBits))) <|>
  (do
    keyword "NaN" <|> keyword "+NaN" <|> keyword "-NaN"
    return .number (.double Double.nan))

/-- Takes a text, a character or a number. -/
def scanScalar : Text.Scan Json :=
  (do return .string (← scanQuoted <|> scanRaw <|> scanLetter)) <|> scanNumber

/-- Whether a record follows, whose first field has a name and a colon. -/
def isRecord : Text.Scan Bool := fun cs =>
  let named : Text.Scan Unit := do
    scanBlanks
    let _ ← scanName
    scanBlanks
    let _ ← Text.Scan.char ':'
  some ((named.run cs).isSome, cs)

/-- Takes a value of some depth. -/
def scanValue : Nat → Text.Scan Json
  | 0 => failure
  | depth + 1 =>
    let value := scanValue depth
    let member (key : Text.Scan Json) : Text.Scan (Json × Json) := do
      let k ← key
      mark ':'
      return (k, ← value)
    let grouped : Text.Scan Json := do
      let _ ← Text.Scan.char '('
      if ← isRecord then
        mapping (← scanElements (member do return .string (← scanName)) ')')
      else
        return .array (← scanElements value ')')
    let given : Text.Scan Json := do
      keyword "Some"
      mark '('
      let j ← value
      let _ ← Text.Scan.optional (mark ',')
      scanBlanks
      let _ ← Text.Scan.char ')'
      return j
    let record : Text.Scan Json := do
      let name ← scanName
      if name = "Some" then failure
      (do scanBlanks; grouped) <|> return .null
    let listed : Text.Scan Json := do
      let _ ← Text.Scan.char '['
      return .array (← scanElements value ']')
    let mapped : Text.Scan Json := do
      let _ ← Text.Scan.char '\x7b'
      mapping (← scanElements (member value) '\x7d')
    scanWord <|> given <|> record <|> grouped <|> listed <|> mapped <|> scanScalar

/-- The deepest nesting of a file. -/
def maxDepth : Nat := 128

/-! ## Attributes -/

/-- The names of extensions that a file may ask for. -/
def extensions : List String := ["unwrap_newtypes", "implicit_some", "unwrap_variant_newtypes"]

/-- Takes the name of an extension. -/
def scanExtension : Text.Scan Unit := do
  if !extensions.contains (← scanName) then failure

/-- Takes an attribute that asks for extensions, and the blanks after it. -/
def scanAttribute : Text.Scan Unit := do
  for c in ['#', '!', '['] do
    let _ ← Text.Scan.char c
    scanBlanks
  Text.Scan.word "enable"
  mark '('
  let names ← scanElements scanExtension ')'
  if names.isEmpty then failure
  scanBlanks
  let _ ← Text.Scan.char ']'
  scanBlanks

/-- Takes a file. -/
def scanFile : Text.Scan Json := do
  scanBlanks
  let _ ← Text.Scan.many scanAttribute
  let j ← scanValue (maxDepth + 1)
  scanBlanks
  return j

end Ron

/-- The tree of settings of a RON text. -/
def ofRon? (text : String) : Option Json :=
  (Ron.scanFile.whole? text).map fun j =>
    match j with
    | .object members => .object members
    | _ => .object []

end RoundWorkflow.Settings
