import RoundWorkflow.Dict
import RoundWorkflow.Json
import RoundWorkflow.Text.Blank
import RoundWorkflow.Text.Number
import RoundWorkflow.Text.Scan

/-!
# Settings in INI

A file is a row of settings, a name and a value each, under the headings of sections.  A
section is a map of texts, and the settings before the first heading stand beside the
sections.  A section that is named again takes the place of the former one.

A name ends with `=` or `:`, and a value with its line, unless the line ends in quotes.
A backslash before a character changes what it stands for.  A comment has a line of its
own.
-/

namespace RoundWorkflow.Settings

namespace Ini

/-- What a character stands for after a backslash. -/
def escaped (c : Char) : Char :=
  match c with
  | '0' => '\x00'
  | 'a' => '\x07'
  | 'b' => '\x08'
  | 't' => '\t'
  | 'r' => '\r'
  | 'n' => '\n'
  | c => c

/-- The character with a number in hexadecimal digits, which may have a plus before them. -/
def numbered? (digits : List Char) : Option Char :=
  let digits := match digits with
    | '+' :: rest => rest
    | ds => ds
  (Text.basedNatural? 16 digits).bind fun n => if n.isValidChar then some (Char.ofNat n) else none

/-- Takes a text up to a character that ends it; `mayEnd` tells whether the end of the file does,
too.  A line end after a backslash is left out with the character after it. -/
def scanText (ends : Char → Bool) (mayEnd : Bool) : List Char → Option (List Char × List Char)
  | [] => if mayEnd then some ([], []) else none
  | '\\' :: rest =>
    match rest with
    | 'x' :: a :: b :: c :: d :: rest => do
      let first ← numbered? [a, b, c, d]
      let (text, rest) ← scanText ends mayEnd rest
      return (first :: text, rest)
    | '\n' :: [] => scanText ends mayEnd []
    | '\n' :: _ :: rest => scanText ends mayEnd rest
    | c :: rest => do
      if c = 'x' then failure
      let (text, rest) ← scanText ends mayEnd rest
      return (escaped c :: text, rest)
    | [] => none
  | c :: rest =>
    if ends c then some ([], c :: rest)
    else do
      let (text, rest) ← scanText ends mayEnd rest
      return (c :: text, rest)

/-- Whether a character ends a line. -/
def isLineEnd (c : Char) : Bool := c = '\n' || c = '\r'

/-- Takes a text in quotes. -/
def scanQuoted (quote : Char) : Text.Scan (List Char) := do
  let _ ← Text.Scan.char quote
  let text ← scanText (· = quote) false
  let _ ← Text.Scan.char quote
  return text

/-- Takes the rest of a value; only what comes first is without the blanks at its front. -/
def scanRest (isFirst : Bool) : Nat → Text.Scan (List Char)
  | 0 => failure
  | fuel + 1 => do
    match ← Text.Scan.peek? with
    | none => return []
    | some c =>
      if c = '"' || c = '\'' then
        let text ← scanQuoted c
        return text ++ (← scanRest false fuel)
      else
        let text ← scanText isLineEnd true
        return if isFirst then Text.trim text else Text.trimRight text

/-- Takes a value. -/
def scanValue : Text.Scan String := do
  let _ ← Text.Scan.spanWhere fun c => Text.isBlank c && !isLineEnd c
  return String.ofList (← scanRest true ((← get).length + 1))

/-- A section: its name, and its settings, newest first. -/
structure Section where
  /-- The name; what comes before the first heading has none. -/
  name : Option String
  /-- The settings. -/
  entries : List (String × Json)
  deriving Inhabited

/-- Takes the heading of a section. -/
def scanHeading : Text.Scan String := do
  let _ ← Text.Scan.char '['
  let name ← scanText (· = ']') false
  let _ ← Text.Scan.char ']'
  return String.ofList (Text.trim name)

/-- Takes a setting. -/
def scanEntry : Text.Scan (String × Json) := do
  let name ← scanText (fun c => c = '=' || c = ':') false
  if (Text.trim name).isEmpty then failure
  let _ ← Text.Scan.charWhere fun _ => true
  return (String.ofList (Text.trim name), .string (← scanValue))

/-- Takes the sections after some that have been taken, newest first; `atFront` tells that a line
begins here. -/
def scanSections (atFront : Bool) (current : Section) (before : List Section) :
    Nat → Text.Scan (List Section)
  | 0 => failure
  | fuel + 1 => do
    let blanks ← Text.Scan.spanWhere Text.isBlank
    let atFront := if blanks.isEmpty then atFront else blanks.getLast? = some '\n'
    match ← Text.Scan.peek? with
    | none => return (current :: before).reverse
    | some c =>
      if c = ';' || c = '#' then
        if !atFront then failure
        let _ ← Text.Scan.spanWhere (· ≠ '\n')
        scanSections false current before fuel
      else if c = '[' then
        let name ← scanHeading
        scanSections false ⟨some name, []⟩ (current :: before) fuel
      else
        let entry ← scanEntry
        scanSections false { current with entries := entry :: current.entries } before fuel

/-- The settings of a section. -/
def Section.settings (s : Section) : List (String × Json) :=
  match s.name with
  | some name => [(name, .object (Dict.ofList s.entries.reverse).entries)]
  | none => s.entries.reverse

end Ini

/-- The tree of settings of an INI text. -/
def ofIni? (text : String) : Option Json :=
  (Ini.scanSections true ⟨none, []⟩ [] (text.length + 1)).whole? text |>.map fun sections =>
    .object (sections.flatMap Ini.Section.settings)

end RoundWorkflow.Settings
