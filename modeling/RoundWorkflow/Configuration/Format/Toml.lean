import RoundWorkflow.Dict
import RoundWorkflow.Json
import RoundWorkflow.Moment
import RoundWorkflow.Text.Number
import RoundWorkflow.Text.Scan

/-!
# Settings in TOML

A file is a row of settings, a key and a value each, and of headings.  A heading opens the
table that the settings after it belong to, and a heading in two brackets adds a table
to a list of tables.  A key may have several parts, and then leads through tables that
are made on the way.

No table is opened twice, and no setting made twice.  For this a table keeps how it came to
be (`Origin`): one that was made on the way to another one may still be opened by a
heading, and one that was made by keys may get further settings by keys.

Dates and times are texts.
-/

namespace RoundWorkflow.Settings

namespace Toml

/-! ## Blanks -/

/-- Whether a character is a space or a tab. -/
def isSpace (c : Char) : Bool := c = ' ' || c = '\t'

/-- Whether a character may stand in a comment. -/
def isCommentChar (c : Char) : Bool := c = '\t' || (' ' ≤ c && c ≤ '~') || 0x80 ≤ c.toNat

/-- Takes spaces. -/
def scanSpace : Text.Scan Unit := do
  let _ ← Text.Scan.spanWhere isSpace

/-- Takes a line end. -/
def scanNewline : Text.Scan Unit := Text.Scan.word "\n" <|> Text.Scan.word "\r\n"

/-- Takes a comment. -/
def scanComment : Text.Scan Unit := do
  let _ ← Text.Scan.char '#'
  let _ ← Text.Scan.spanWhere isCommentChar

/-- Takes spaces, a comment if there is one, and the end of the line or the file. -/
def scanLineEnd : Text.Scan Unit := do
  scanSpace
  let _ ← Text.Scan.optional scanComment
  if !(← Text.Scan.atEnd) then scanNewline

/-- Takes spaces, comments and line ends. -/
def scanBlanks : Text.Scan Unit := do
  let _ ← Text.Scan.many <|
    (do let _ ← Text.Scan.someWhere isSpace) <|>
    (do
      let _ ← Text.Scan.optional scanComment
      scanNewline)

/-! ## Texts -/

/-- Whether a character is a hexadecimal digit. -/
def isHexDigit (c : Char) : Bool :=
  c.isDigit || ('a' ≤ c && c ≤ 'f') || ('A' ≤ c && c ≤ 'F')

/-- Takes the code of a character in so many hexadecimal digits. -/
def scanCode (length : Nat) : Text.Scan Char := do
  match Text.basedNatural? 16 (← Text.Scan.exactly isHexDigit length) with
  | some n => if n.isValidChar then return Char.ofNat n else failure
  | none => failure

/-- Takes what stands for a character after a backslash. -/
def scanEscape : Text.Scan Char := do
  let _ ← Text.Scan.char '\\'
  match ← Text.Scan.charWhere fun _ => true with
  | 'b' => return '\x08'
  | 't' => return '\t'
  | 'n' => return '\n'
  | 'f' => return '\x0C'
  | 'r' => return '\r'
  | '"' => return '"'
  | '\\' => return '\\'
  | 'u' => scanCode 4
  | 'U' => scanCode 8
  | _ => failure

/-- Takes a character between double quotes. -/
def scanBasicChar : Text.Scan Char :=
  scanEscape <|> Text.Scan.charWhere fun c => isCommentChar c && c ≠ '"' && c ≠ '\\'

/-- Takes a character between single quotes. -/
def scanLiteralChar : Text.Scan Char := Text.Scan.charWhere fun c => isCommentChar c && c ≠ '\''

/-- Takes a text of characters in quotes of a kind. -/
def scanQuoted (quote : Char) (scanChar : Text.Scan Char) : Text.Scan String := do
  let _ ← Text.Scan.char quote
  let cs ← Text.Scan.many scanChar
  let _ ← Text.Scan.char quote
  return String.ofList cs

/-- Takes a text of one line in quotes. -/
def scanLine : Text.Scan String := scanQuoted '"' scanBasicChar <|> scanQuoted '\'' scanLiteralChar

/-- Takes a backslash and the line ends and spaces after it. -/
def scanContinuation : Text.Scan (List Char) := do
  let _ ← Text.Scan.char '\\'
  scanSpace
  scanNewline
  let _ ← Text.Scan.many ((do let _ ← Text.Scan.someWhere isSpace) <|> scanNewline)
  return []

/-- Takes one or two quotes that do not end a text of several lines. -/
def scanInnerQuotes (quote : Char) : Text.Scan (List Char) := fun cs =>
  let quotes := cs.takeWhile (· = quote)
  if 0 < quotes.length && quotes.length < 3 then some (quotes, cs.drop quotes.length) else none

/-- Takes the three quotes that end a text of several lines, and the quotes before them. -/
def scanOuterQuotes (quote : Char) : Text.Scan (List Char) := fun cs =>
  let quotes := cs.takeWhile (· = quote)
  if 3 ≤ quotes.length && quotes.length < 6 then
    some (quotes.drop 3, cs.drop quotes.length) else none

/-- Takes a text of several lines.  A line end after the quotes that begin it is left out. -/
def scanLines (quote : Char) (scanChar : Text.Scan (List Char)) : Text.Scan String := do
  Text.Scan.word (String.ofList [quote, quote, quote])
  let _ ← Text.Scan.optional scanNewline
  let pieces ← Text.Scan.many <|
    scanChar <|> scanInnerQuotes quote <|> (do scanNewline; return ['\n'])
  let ending ← scanOuterQuotes quote
  return String.ofList (pieces.flatten ++ ending)

/-- Takes a text. -/
def scanText : Text.Scan String :=
  scanLines '"' (scanContinuation <|> do return [← scanBasicChar]) <|>
  scanLines '\'' (do return [← scanLiteralChar]) <|>
  scanLine

/-! ## Keys -/

/-- Whether a character may stand in a key without quotes. -/
def isKeyChar (c : Char) : Bool := c.isAlphanum || c = '_' || c = '-'

/-- Takes a part of a key, and the spaces on both sides. -/
def scanPart : Text.Scan String := do
  scanSpace
  let name ← scanLine <|> do return String.ofList (← Text.Scan.someWhere isKeyChar)
  scanSpace
  return name

/-- The bound of the parts of a key, and of the nesting of a value. -/
def maxDepth : Nat := 80

/-- Takes a key: the parts before the last, and the last. -/
def scanKey : Text.Scan (List String × String) := do
  let first ← scanPart
  let rest ← Text.Scan.many do
    let _ ← Text.Scan.char '.'
    scanPart
  if maxDepth ≤ rest.length + 1 then failure
  return ((first :: rest).dropLast, rest.getLast?.getD first)

/-! ## Numbers -/

/-- Takes digits with single underscores between them. -/
def scanDigits (isDigit : Char → Bool) : Text.Scan (List Char) := do
  let first ← Text.Scan.charWhere isDigit
  let rest ← Text.Scan.many do
    let _ ← Text.Scan.optional (Text.Scan.char '_')
    Text.Scan.charWhere isDigit
  return first :: rest

/-- Takes a sign. -/
def scanSign : Text.Scan (List Char) := do
  return (← Text.Scan.optional (Text.Scan.charWhere fun c => c = '+' || c = '-')).toList

/-- Takes the digits of a whole number, of which zero begins none but itself. -/
def scanWhole : Text.Scan (List Char) := do
  match ← Text.Scan.peek? with
  | some '0' => return [← Text.Scan.char '0']
  | _ => scanDigits Char.isDigit

/-- A number of 64 bits with a sign. -/
def whole (i : Option Int) : Text.Scan Json :=
  match i.filter Text.isInt64 with
  | some i => return .number (.integer i)
  | none => failure

/-- Takes a whole number in a base, after its mark. -/
def scanBased (mark : String) (base : Nat) : Text.Scan Json := do
  Text.Scan.word mark
  let digits ← scanDigits fun c => (Text.basedNatural? base [c]).isSome
  whole ((Text.basedNatural? base digits).map Int.ofNat)

/-- Takes a whole number. -/
def scanInteger : Text.Scan Json :=
  scanBased "0x" 16 <|> scanBased "0o" 8 <|> scanBased "0b" 2 <|> do
    let sign ← scanSign
    let digits ← scanWhole
    whole (Text.integer? (sign ++ digits))

/-- Takes the exponent of a number. -/
def scanExponent : Text.Scan (List Char) := do
  let e ← Text.Scan.charWhere fun c => c = 'e' || c = 'E'
  let sign ← scanSign
  return e :: (sign ++ (← scanDigits Char.isDigit))

/-- Takes the point of a number and the digits after it. -/
def scanFraction : Text.Scan (List Char) := do
  let point ← Text.Scan.char '.'
  return point :: (← scanDigits Char.isDigit)

/-- Takes a number with a point or an exponent.  It must not be too great. -/
def scanReal : Text.Scan Json := do
  let sign ← scanSign
  let digits ← scanWhole
  let fraction ← Text.Scan.optional scanFraction
  let exponent ← Text.Scan.optional scanExponent
  if fraction.isNone && exponent.isNone then failure
  match Text.double? (sign ++ digits ++ fraction.getD [] ++ exponent.getD []) with
  | some d => if !d.isFinite && !d.isNegative then failure else return .number (.double d)
  | none => failure

/-- Takes the word for a number that is infinite, or none. -/
def scanNumberWord : Text.Scan Json := do
  let sign ← scanSign
  (do
    Text.Scan.word "inf"
    return .number (.double (Double.ofMagnitude (sign = ['-']) Double.infinityBits))) <|>
  (do
    Text.Scan.word "nan"
    return .number (.double Double.nan))

/-! ## Dates and times -/

/-- Takes so many digits of a number within bounds. -/
def scanField (width low high : Nat) : Text.Scan Nat := do
  let n := Text.digitsValue 0 (← Text.Scan.exactly Char.isDigit width)
  if low ≤ n && n ≤ high then return n else failure

/-- Takes a date. -/
def scanDate : Text.Scan (List Char) := do
  let year ← scanField 4 0 9999
  let _ ← Text.Scan.char '-'
  let month ← scanField 2 1 12
  let _ ← Text.Scan.char '-'
  let day ← scanField 2 1 (Moment.daysOfMonth year month)
  return Text.paddedNumeral 4 year ++ '-' :: Text.paddedNumeral 2 month ++ '-' ::
    Text.paddedNumeral 2 day

/-- A fraction of a second by its digits: nine at most, without zeros that end it. -/
def fractionText (digits : List Char) : List Char :=
  let kept := ((digits.take 9).reverse.dropWhile (· = '0')).reverse
  if kept.isEmpty then [] else '.' :: kept

/-- Takes a time of the day. -/
def scanTime : Text.Scan (List Char) := do
  let hour ← scanField 2 0 23
  let _ ← Text.Scan.char ':'
  let minute ← scanField 2 0 59
  let _ ← Text.Scan.char ':'
  let second ← scanField 2 0 60
  let fraction ← Text.Scan.optional do
    let _ ← Text.Scan.char '.'
    Text.Scan.someWhere Char.isDigit
  return Text.paddedNumeral 2 hour ++ ':' :: Text.paddedNumeral 2 minute ++ ':' ::
    Text.paddedNumeral 2 second ++ fractionText (fraction.getD [])

/-- Takes the distance of a time from the universal one. -/
def scanOffset : Text.Scan (List Char) :=
  (do
    let _ ← Text.Scan.charWhere fun c => c = 'Z' || c = 'z'
    return ['Z']) <|>
  (do
    let sign ← Text.Scan.charWhere fun c => c = '+' || c = '-'
    let hours ← scanField 2 0 23
    let _ ← Text.Scan.char ':'
    let minutes ← scanField 2 0 59
    let sign := if hours = 0 && minutes = 0 then '+' else sign
    return sign :: Text.paddedNumeral 2 hours ++ ':' :: Text.paddedNumeral 2 minutes)

/-- Takes a date, a time, or both. -/
def scanMoment : Text.Scan Json :=
  (do
    let date ← scanDate
    let time ← Text.Scan.optional do
      let _ ← Text.Scan.charWhere fun c => c = 'T' || c = 't' || c = ' '
      let time ← scanTime
      return 'T' :: time ++ (← Text.Scan.optional scanOffset).getD []
    return .string (String.ofList (date ++ time.getD []))) <|>
  (do return .string (String.ofList (← scanTime)))

/-- Takes a value without parts. -/
def scanScalar : Text.Scan Json :=
  (do return .string (← scanText)) <|>
  (do Text.Scan.word "true"; return .bool true) <|>
  (do Text.Scan.word "false"; return .bool false) <|>
  scanMoment <|> scanReal <|> scanNumberWord <|> scanInteger

/-! ## Tables -/

/-- How a table came to be. -/
inductive Origin where
  /-- By a heading, or by braces. -/
  | stated
  /-- On the way of a heading to another table. -/
  | passed
  /-- On the way of a key to a setting. -/
  | keyed
  deriving DecidableEq, Repr, Inhabited

/-- What a name in a table leads to. -/
inductive Item where
  | value (j : Json)
  | table (origin : Origin) (entries : List (String × Item))
  /-- A list of tables, newest first. -/
  | tables (items : List (List (String × Item)))
  deriving Inhabited

/-- What the names of a table lead to. -/
abbrev Entries := List (String × Item)

/-- The entries with another item under a name. -/
def replace (name : String) (item : Item) (entries : Entries) : Entries :=
  entries.map fun e => if e.1 = name then (name, item) else e

/-- The entries with a setting that a key leads to. -/
def assign (entries : Entries) : List String → String → Json → Option Entries
  | [], name,
      j => if (entries.lookup name).isSome then none else some (entries ++ [(name, .value j)])
  | part :: path, name, j =>
    match entries.lookup part with
    | none => (assign [] path name j).map fun inner => entries ++ [(part, .table .keyed inner)]
    | some (.value _) => none
    | some (.table origin inner) =>
      if origin = .stated || (path.isEmpty && origin ≠ .keyed) then none
      else (assign inner path name j).map fun inner => replace part (.table origin inner) entries
    | some (.tables []) => none
    | some (.tables (last :: before)) =>
      if path.isEmpty then none
      else (assign last path name j).map fun last => replace part (.tables (last :: before)) entries

/-- The entries changed at the end of the path of a heading; tables are made on the way. -/
def within (change : Entries → Option Entries) (entries : Entries) : List String → Option Entries
  | [] => change entries
  | part :: path =>
    match entries.lookup part with
    | none => (within change [] path).map fun inner => entries ++ [(part, .table .passed inner)]
    | some (.value _) | some (.tables []) => none
    | some (.table origin inner) =>
      (within change inner path).map fun inner => replace part (.table origin inner) entries
    | some (.tables (last :: before)) =>
      (within change last path).map fun last => replace part (.tables (last :: before)) entries

/-- The entries with a table opened that had not been. -/
def openTable (name : String) (entries : Entries) : Option Entries :=
  match entries.lookup name with
  | none => some (entries ++ [(name, .table .stated [])])
  | some (.table .passed inner) => some (replace name (.table .stated inner) entries)
  | some _ => none

/-- The entries with one more table in a list. -/
def addTable (name : String) (entries : Entries) : Option Entries :=
  match entries.lookup name with
  | none => some (entries ++ [(name, .tables [[]])])
  | some (.tables items) => some (replace name (.tables ([] :: items)) entries)
  | some _ => none

mutual

/-- The setting that an item is. -/
def Item.setting : Item → Json
  | .value j => j
  | .table _ entries => .object (settings entries)
  | .tables items => .array (listed items).reverse

/-- The settings of entries. -/
def settings : List (String × Item) → List (String × Json)
  | [] => []
  | (name, item) :: rest => (name, item.setting) :: settings rest

/-- The settings of the tables of a list. -/
def listed : List (List (String × Item)) → List Json
  | [] => []
  | entries :: rest => .object (settings entries) :: listed rest

end

/-! ## Values -/

/-- The table of settings in braces. -/
def tableOf (pairs : List ((List String × String) × Json)) : Text.Scan Json :=
  match pairs.foldlM (fun entries p => assign entries p.1.1 p.1.2 p.2) [] with
  | some entries => return .object (settings entries)
  | none => failure

/-- Takes a list, after its opening mark. -/
def scanItems (value : Text.Scan Json) : Text.Scan Json := do
  scanBlanks
  let items ← Text.Scan.many do
    let j ← value
    scanBlanks
    let hasComma ← Text.Scan.taken (Text.Scan.char ',')
    if hasComma then scanBlanks
    else if (← Text.Scan.peek?) ≠ some ']' then failure
    return j
  let _ ← Text.Scan.char ']'
  return .array items

/-- Takes a table in braces, after its opening mark. -/
def scanPairs (value : Text.Scan Json) : Text.Scan Json := do
  let pair : Text.Scan ((List String × String) × Json) := do
    let key ← scanKey
    let _ ← Text.Scan.char '='
    scanSpace
    let j ← value
    scanSpace
    return (key, j)
  scanSpace
  let first ← Text.Scan.optional pair
  let rest ← if first.isSome then Text.Scan.many (do let _ ← Text.Scan.char ','; pair) else pure []
  let _ ← Text.Scan.char '\x7d'
  tableOf (first.toList ++ rest)

/-- Takes a value of some depth. -/
def scanValue : Nat → Text.Scan Json
  | 0 => failure
  | depth + 1 => do
    match ← Text.Scan.peek? with
    | some '[' =>
      if depth = 0 then failure
      let _ ← Text.Scan.char '['
      scanItems (scanValue depth)
    | some '\x7b' =>
      if depth = 0 then failure
      let _ ← Text.Scan.char '\x7b'
      scanPairs (scanValue depth)
    | _ => scanScalar

/-! ## Files -/

/-- A line of a file. -/
inductive Line where
  | blank
  | setting (path : List String) (name : String) (value : Json)
  | heading (path : List String) (name : String)
  /-- A heading in two brackets. -/
  | addition (path : List String) (name : String)
  deriving Inhabited

/-- Takes a line. -/
def scanLineOf : Text.Scan Line := do
  scanSpace
  match ← Text.Scan.peek? with
  | none => failure
  | some '[' =>
    let _ ← Text.Scan.char '['
    let isAddition ← Text.Scan.taken (Text.Scan.char '[')
    let (path, name) ← scanKey
    Text.Scan.word (if isAddition then "]]" else "]")
    scanLineEnd
    return if isAddition then .addition path name else .heading path name
  | some c =>
    if c = '#' || c = '\n' || c = '\r' then
      scanLineEnd
      return .blank
    else
      let (path, name) ← scanKey
      let _ ← Text.Scan.char '='
      scanSpace
      let j ← scanValue maxDepth
      scanLineEnd
      return .setting path name j

/-- The entries of a file, and the path of the table that is open. -/
structure Page where
  /-- The entries. -/
  entries : Entries
  /-- The path of the open table. -/
  place : List String
  deriving Inhabited

/-- The page with one more line. -/
def Page.add (p : Page) : Line → Option Page
  | .blank => some p
  | .setting path name j =>
    (within (fun entries => assign entries path name j) p.entries p.place).map fun entries =>
      { p with entries := entries }
  | .heading path name =>
    (within (openTable name) p.entries path).map fun entries => ⟨entries, path ++ [name]⟩
  | .addition path name =>
    (within (addTable name) p.entries path).map fun entries => ⟨entries, path ++ [name]⟩

/-- Takes the lines of a file.  The mark of an encoding may stand before them. -/
def scanFile : Text.Scan (List Line) := do
  let _ ← Text.Scan.optional (Text.Scan.char (Char.ofNat 0xFEFF))
  let lines ← Text.Scan.many scanLineOf
  scanSpace
  return lines

end Toml

/-- The tree of settings of a TOML text. -/
def ofToml? (text : String) : Option Json := do
  let lines ← Toml.scanFile.whole? text
  let page ← lines.foldlM Toml.Page.add ⟨[], []⟩
  return .object (Toml.settings page.entries)

end RoundWorkflow.Settings
