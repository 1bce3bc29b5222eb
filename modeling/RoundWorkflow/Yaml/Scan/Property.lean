import RoundWorkflow.Yaml.Scan.Quoted
import RoundWorkflow.Text.Decimal
import RoundWorkflow.Yaml.Token

/-!
# Anchors, tags and directives

An anchor names a node, and an alias stands for the node that its anchor names.  A tag
says of what type a node is.  It has a handle between exclamation marks, which stands for
some text, and a rest; between angle brackets it has a rest only.  A directive before a
document tells the version of the format or what a handle stands for.
-/

namespace RoundWorkflow.Yaml

/-- Whether a character may stand in the name of an anchor. -/
def Edition.isAnchorChar (e : Edition) (c : Char) : Bool :=
  if e = .early then isWordChar c
  else !isSpace c && !e.isBreak c && !isFlowMark c && c ≠ byteOrderMark

/-- Whether the name of an anchor may end before a character. -/
def Edition.endsAnchor (e : Edition) (next : Option Char) : Bool :=
  e = .late || e.isGap next || next.any fun c => "?:,]\x7d%@`".toList.contains c

/-- Reads the name of an anchor or an alias, after its mark. -/
def Cursor.anchorName (c : Cursor) (e : Edition) : Except Fault (String × Cursor) :=
  let (name, rest) := c.span e e.isAnchorChar
  if name.isEmpty || !e.endsAnchor rest.head? then .error rest.position.fault
  else .ok (String.ofList name, rest)

/-! ## Tags -/

/-- Whether a character may stand in a tag between angle brackets, or in what a handle stands
for. -/
def isUriChar (e : Edition) (c : Char) : Bool :=
  c.isAlphanum || "-_;/?:@&=+$,.!~*'()[]%".toList.contains c || (e = .late && c = '#')

/-- Whether a character may stand in a tag after its handle. -/
def isTagChar (e : Edition) (c : Char) : Bool :=
  isUriChar e c && !isFlowMark c && !(e = .late && c = '!')

/-- The characters of a part of a tag, in which a percent sign and two digits stand for a byte.
A character of several bytes, of which so many are still due, becomes a replacement character. -/
def unescaped? (due : Nat) : List Char → Option (List Char)
  | '%' :: a :: b :: rest => do
    let n := 16 * (← hexValue? a) + (← hexValue? b)
    match due with
    | 0 =>
      if n < 0x80 then return Char.ofNat n :: (← unescaped? 0 rest)
      else if n < 0xC0 || 0xF8 ≤ n then none
      else unescaped? (if n < 0xE0 then 1 else if n < 0xF0 then 2 else 3) rest
    | 1 => if 0x80 ≤ n && n < 0xC0 then return Char.ofNat 0xFFFD :: (← unescaped? 0 rest) else none
    | due + 2 => if 0x80 ≤ n && n < 0xC0 then unescaped? (due + 1) rest else none
  | '%' :: _ => none
  | c :: rest => if due = 0 then (unescaped? 0 rest).map (c :: ·) else none
  | [] => if due = 0 then some [] else none

/-- Reads a part of a tag. -/
def Cursor.tagPart (c : Cursor) (e : Edition) (test : Char → Bool) :
    Except Fault (String × Cursor) :=
  let (taken, rest) := c.span e test
  match unescaped? 0 taken with
  | some cs => .ok (String.ofList cs, rest)
  | none => .error rest.position.fault

/-- Reads the first exclamation mark of a tag, the word after it and the second mark, if it is
there. -/
def Cursor.tagHandle (c : Cursor) (e : Edition) : Except Fault (String × Cursor) :=
  if c.head? ≠ some '!' then .error c.position.fault
  else
    let (word, rest) := (c.advance e).span e isWordChar
    if rest.head? = some '!' then .ok (String.ofList ('!' :: (word ++ ['!'])), rest.advance e)
    else .ok (String.ofList ('!' :: word), rest)

/-- Reads a tag. -/
def Cursor.tag (c : Cursor) (e : Edition) : Except Fault (Tag × Cursor) := do
  if c.next? = some '<' then
    let (suffix, rest) ← (c.advanceBy e 2).tagPart e (isUriChar e)
    if rest.head? ≠ some '>' || (e = .early && suffix.isEmpty) then throw rest.position.fault
    return (⟨"", suffix⟩, rest.advance e)
  else
    let (handle, rest) ← c.tagHandle e
    let (suffix, rest) ← rest.tagPart e (isTagChar e)
    let word := handle.toList.tail
    if word.getLast? = some '!' then
      if suffix.isEmpty then throw rest.position.fault
      return (⟨handle, suffix⟩, rest)
    else
      let suffix := String.ofList word ++ suffix
      return (if suffix.isEmpty then ⟨"", "!"⟩ else ⟨"!", suffix⟩, rest)

/-! ## The ends of lines -/

/-- What stands between a token and the end of its line. -/
structure Trailing where
  /-- Whether there are tabs. -/
  hasTab : Bool
  /-- Whether there are spaces. -/
  hasSpace : Bool
  /-- What follows. -/
  cursor : Cursor
  deriving Inhabited

/-- Passes over spaces, and over a comment if something stands before it. -/
def readTrailing (e : Edition) (hasTab hasSpace inComment : Bool) (p : Position) :
    List Char → Except Fault Trailing
  | [] => .ok ⟨hasTab, hasSpace, ⟨p, []⟩⟩
  | c :: rest =>
    if e.isBreak c then .ok ⟨hasTab, hasSpace, ⟨p, c :: rest⟩⟩
    else if inComment then readTrailing e hasTab hasSpace true (p.after e c) rest
    else if c = ' ' then readTrailing e hasTab true false (p.after e c) rest
    else if c = '\t' then readTrailing e true hasSpace false (p.after e c) rest
    else if c = '#' then
      if e = .early || hasTab || hasSpace then readTrailing e hasTab hasSpace true
        (p.after e c) rest
      else .error p.fault
    else .ok ⟨hasTab, hasSpace, ⟨p, c :: rest⟩⟩

/-- Passes over spaces, and over a comment; in the late edition something has to stand before it. -/
def Cursor.trailing (c : Cursor) (e : Edition) : Except Fault Trailing :=
  readTrailing e false false false c.position c.rest

/-- Passes over spaces and a comment up to the end of a line, and over that end. -/
def Cursor.restOfLine (c : Cursor) (e : Edition) : Except Fault Cursor := do
  let rest := (← c.trailing e).cursor
  if e.isLineEnd rest.head? then return rest.advance e else throw rest.position.fault

/-! ## Directives -/

/-- The greatest number of digits of a version. -/
def maxVersionDigits : Nat := 9

/-- Reads a part of a version. -/
def Cursor.versionPart (c : Cursor) (e : Edition) : Except Fault (Nat × Cursor) :=
  let (digits, rest) := c.span e Char.isDigit
  if digits.isEmpty || maxVersionDigits < digits.length then .error rest.position.fault
  else .ok (Text.digitsValue 0 digits, rest)

/-- Reads a version. -/
def Cursor.version (c : Cursor) (e : Edition) : Except Fault (Token.Kind × Cursor) := do
  let (major, rest) ← (c.span e isSpace).2.versionPart e
  if rest.head? ≠ some '.' then throw rest.position.fault
  let (minor, rest) ← (rest.advance e).versionPart e
  return (.version major minor, rest)

/-- Reads what a handle stands for. -/
def Cursor.handle (c : Cursor) (e : Edition) : Except Fault (Token.Kind × Cursor) := do
  let (handle, rest) ← (c.span e isSpace).2.tagHandle e
  if handle ≠ "!" && handle.toList.getLast? ≠ some '!' then throw rest.position.fault
  if e = .early && !rest.head?.any isSpace then throw rest.position.fault
  let (expansion, rest) ← (rest.span e isSpace).2.tagPart e (isUriChar e)
  if expansion.isEmpty || !e.isGap rest.head? then throw rest.position.fault
  return (.handle handle expansion, rest)

/-- Reads a directive, after its mark.  Only the late edition passes over an unknown one. -/
def Cursor.directive (c : Cursor) (e : Edition) : Except Fault (Token.Kind × Cursor) := do
  let (name, rest) := c.span e isWordChar
  if name.isEmpty || !e.isGap rest.head? then throw rest.position.fault
  let (kind, rest) ←
    match String.ofList name with
    | "YAML" => rest.version e
    | "TAG" => rest.handle e
    | _ =>
      if e = .early then throw rest.position.fault
      else pure (.handle "" "", (rest.span e fun x => !e.isBreak x).2)
  return (kind, ← rest.restOfLine e)

end RoundWorkflow.Yaml
