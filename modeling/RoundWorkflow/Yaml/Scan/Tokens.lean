import RoundWorkflow.Yaml.Scan
import RoundWorkflow.Yaml.Scan.Block
import RoundWorkflow.Yaml.Scan.Property

/-!
# Scanning

A step of a scan passes over what stands between two tokens, ends the collections in
block style that are over, and reads one token (`Scan.step`).  The first characters tell
what token it is.  A step takes a character at least, so a text has no more steps than
characters, and one more for its end.

When a step fails, the tokens that are certain by then count; those from the first
candidate for a key on do not.
-/

namespace RoundWorkflow.Yaml

namespace Scan

/-! ## Between tokens -/

/-- What comes between two tokens. -/
structure Interval where
  /-- Whether a key may begin after it. -/
  keyAllowed : Bool
  /-- Whether only spaces stand before its end on the line. -/
  atLineStart : Bool
  /-- What follows it. -/
  cursor : Cursor
  deriving Inhabited

/-- Passes over spaces, comments and line ends by the rules of the early edition.  Tabs count as
spaces where no key may begin, and in brackets. -/
def earlyInterval (inFlow keyAllowed inComment : Bool) (p : Position) : List Char → Interval
  | [] => ⟨keyAllowed, false, ⟨p, []⟩⟩
  | c :: rest =>
    let next := p.after .early c
    if Edition.early.isBreak c then earlyInterval inFlow (keyAllowed || !inFlow) false next rest
    else if inComment then earlyInterval inFlow keyAllowed true next rest
    else if c = '#' then earlyInterval inFlow keyAllowed true next rest
    else if c = ' ' || (c = '\t' && (inFlow || !keyAllowed)) ||
      (c = byteOrderMark && p.column = 0) then
      earlyInterval inFlow keyAllowed false next rest
    else ⟨keyAllowed, false, ⟨p, c :: rest⟩⟩

/-- What a tab does between two tokens of the late edition. -/
inductive TabRule where
  /-- It is a fault. -/
  | refused
  /-- At the beginning of a line and to the left of a column, it leaves room for a comment only. -/
  | leftOf (column : Int)
  deriving Repr, Inhabited

/-- Whether a tab at a column leaves no room for a token. -/
def TabRule.limits (rule : TabRule) (atLineStart : Bool) (column : Nat) : Bool :=
  match rule with
  | .refused => false
  | .leftOf limit => atLineStart && column < limit

/-- Passes over spaces, comments and line ends by the rules of the late edition. -/
def lateInterval (inFlow : Bool) (rule : TabRule) (keyAllowed atLineStart : Bool) (room : Room)
    (p : Position) : List Char → Except Fault Interval
  | [] => .ok ⟨keyAllowed, atLineStart, ⟨p, []⟩⟩
  | c :: rest =>
    let next := p.after .late c
    if c = '\n' then lateInterval inFlow rule (keyAllowed || !inFlow) true .text next rest
    else if room = .lineEnd || c = '#' then
      lateInterval inFlow rule keyAllowed false .lineEnd next rest
    else if c = '\t' && rule matches .refused then .error p.fault
    else if isSpace c then
      let room := if c = '\t' && rule.limits atLineStart p.column then .remark else room
      lateInterval inFlow rule keyAllowed atLineStart room next rest
    else if room = .remark then .error p.fault
    else .ok ⟨keyAllowed, atLineStart, ⟨p, c :: rest⟩⟩

/-- With what stands between two tokens passed over by the rules of the late edition. -/
def takeInterval (s : Scan) (rule : TabRule) : Except Fault Scan := do
  let i ← lateInterval s.inFlow rule s.keyAllowed s.atLineStart .text
    s.cursor.position s.cursor.rest
  return { s with cursor := i.cursor, keyAllowed := i.keyAllowed, atLineStart := i.atLineStart }

/-- With what stands between two tokens passed over. -/
def skipInterval (e : Edition) (s : Scan) : Except Fault Scan :=
  match e with
  | .early =>
    let i := earlyInterval s.inFlow s.keyAllowed false s.cursor.position s.cursor.rest
    .ok { s with cursor := i.cursor, keyAllowed := i.keyAllowed, atLineStart := i.atLineStart }
  | .late => s.takeInterval (.leftOf (if s.indents.isEmpty then -1 else s.indent))

/-! ## Marks -/

/-- With the first character passed over, which is no space. -/
def takeMark (e : Edition) (s : Scan) : Scan :=
  { s with cursor := s.cursor.advance e, atLineStart := false }

/-- With the spaces passed over that follow a mark in the late edition, up to a comment. -/
def takeTrailing (e : Edition) (s : Scan) : Except Fault Scan := do
  match e with
  | .early => return s
  | .late => return { s with cursor := (← s.cursor.trailing e).cursor }

/-- With a map ended that has no braces. -/
def endBareMap (s : Scan) (p : Position) : Scan :=
  if s.hasBareMap then { s with hasBareMap := false, inBraces := false }.push .closeMap p else s

/-- The greatest number of brackets that may be open in the late edition. -/
def maxBrackets : Nat := 255

/-- An opening bracket. -/
def openBracket (e : Edition) (s : Scan) (kind : Token.Kind) : Except Fault Scan := do
  let p := s.cursor.position
  let s ← s.nominate e
  let s := if e = .late then s.rollBare else s
  if e = .late && maxBrackets < s.candidates.length then throw s.fault
  let s := { s with candidates := none :: s.candidates, keyAllowed := true }
  let s := if e = .late && kind = .openMap then { s with inBraces := true } else s
  let s ← (s.takeMark e).takeTrailing e
  return s.push kind p

/-- A closing bracket. -/
def closeBracket (e : Edition) (s : Scan) (kind : Token.Kind) : Except Fault Scan := do
  let p := s.cursor.position
  let s ← s.forget
  let s := { s with keyAllowed := false, candidates := if s.inFlow then s.candidates.tail
    else s.candidates }
  let s ← ((s.endBareMap p).takeMark e).takeTrailing e
  let s := if s.inFlow then { s with adjacent := some s.cursor.position.index } else s
  return s.push kind p

/-- A comma. -/
def comma (e : Edition) (s : Scan) : Except Fault Scan := do
  let p := s.cursor.position
  let s ← s.forget
  let s ← (({ s with keyAllowed := true }.endBareMap p).takeMark e).takeTrailing e
  return s.push .comma p

/-- Whether a dash may not stand here because of an anchor or a tag before it in the first
column. -/
def isAfterProperty (s : Scan) : Bool :=
  match s.tokens with
  | ⟨.anchor _, _, 0⟩ :: _ | ⟨.tag _, _, 0⟩ :: _ => s.cursor.column = 0 && -1 < s.indent
  | _ => false

/-- A dash. -/
def dash (e : Edition) (s : Scan) : Except Fault Scan := do
  let p := s.cursor.position
  if s.inFlow && e = .late || !s.inFlow && !s.keyAllowed || e = .late && s.isAfterProperty then
    throw s.fault
  let s := (s.roll p.column s.count .blockList p).takeMark e
  match e with
  | .early => return { (← s.forget) with keyAllowed := true }.push .dash p
  | .late =>
    let t ← s.cursor.trailing e
    if t.hasTab && t.cursor.head? = some '-' && e.isGap t.cursor.next? then
      throw t.cursor.position.fault
    let s := { s with cursor := t.cursor }
    let s := if t.cursor.head?.any fun c => e.isBreak c || isFlowMark c then s.rollBare else s
    return { (← s.forget) with keyAllowed := true }.push .dash p

/-- The mark of a key. -/
def keyMark (e : Edition) (s : Scan) : Except Fault Scan := do
  let p := s.cursor.position
  if !s.inFlow && !s.keyAllowed then throw s.fault
  let s := s.roll p.column s.count .blockMap p
  let s ← { s with inBraces := s.inBraces || s.inFlow }.forget
  let s := { s with keyAllowed := !s.inFlow }.takeMark e
  match e with
  | .early => return s.push .key p
  | .late =>
    if s.cursor.head?.isNone then throw s.fault
    return (← s.takeInterval .refused).push .key p

/-- With a colon passed over, and a tab after it in the late edition. -/
def takeColon (e : Edition) (s : Scan) : Except Fault Scan := do
  let s := s.takeMark e
  match e, s.cursor.head? with
  | .late, some '\t' =>
    let t ← s.cursor.trailing e
    if !t.hasSpace && t.cursor.head?.any isWordChar then throw t.cursor.position.fault
    return { s with cursor := t.cursor }
  | _, _ => return s

/-- With the candidate that a colon makes a key. -/
def resolve (s : Scan) (c : Candidate) (p : Position) : Except Fault Scan :=
  let key := s.insert c.tokens .key c.position
  if s.hasBareMap && c.position.line < p.line then .error p.fault
  else
    let key := if s.hasBareMap then key.insert c.tokens .openMap c.position else key
    .ok { key.roll c.position.column c.tokens .blockMap c.position with
      candidates := none :: s.candidates.tail
      keyAllowed := false }

/-- With a colon after which a value stands without a key, or after a key with a mark of its own. -/
def beginValue (s : Scan) (p : Position) : Except Fault Scan :=
  let s := if s.hasBareMap then s.push .openMap p else s
  if !s.inFlow && !s.keyAllowed then .error p.fault
  else .ok { s.roll p.column s.count .blockMap p with keyAllowed := !s.inFlow }

/-- A colon before a value. -/
def valueMark (e : Edition) (s : Scan) : Except Fault Scan := do
  let p := s.cursor.position
  let isBare := e = .late && s.inFlow && !s.inBraces
  let s ← takeColon e { s with hasBareMap := isBare }
  let s ← match s.candidates with
    | some c :: _ => s.resolve c p
    | _ => s.beginValue p
  return (if e = .late then s.rollBare else s).push .value p

/-! ## Scalars and properties -/

/-- A property of a node. -/
def property (e : Edition) (s : Scan) (read : Cursor → Except Fault (Token.Kind × Cursor)) :
    Except Fault Scan := do
  let p := s.cursor.position
  let s ← s.nominate e
  let (kind, rest) ← read s.cursor
  return { s with keyAllowed := false, cursor := rest, atLineStart := false }.push kind p

/-- An anchor or an alias. -/
def anchor (e : Edition) (s : Scan) (kind : String → Token.Kind) : Except Fault Scan :=
  s.property e fun c => do
    let (name, rest) ← (c.advance e).anchorName e
    return (kind name, rest)

/-- A tag. -/
def tag (e : Edition) (s : Scan) : Except Fault Scan :=
  s.property e fun c => do
    let (t, rest) ← c.tag e
    let ends := e.isGap rest.head? ||
      (s.inFlow && rest.head?.any fun c => c = ',' || (e = .late && isFlowMark c))
    if ends then return (.tag t, rest) else throw rest.position.fault

/-- A plain scalar. -/
def plainScalar (e : Edition) (s : Scan) : Except Fault Scan := do
  let p := s.cursor.position
  let s ← s.nominate e
  let s := s.dropBare s.indents
  if e = .late && s.inFlow && p.column < s.indent + 1 then throw s.fault
  let piece ← s.cursor.plain e s.inFlow (s.indent + 1)
  return { s with
    cursor := piece.cursor
    keyAllowed := piece.endedLine
    atLineStart := piece.endedLine }.push (.scalar .plain (String.ofList piece.text)) p

/-- Whether a quoted scalar that begins on a line may end before a character of the late edition. -/
def mayFollowQuote (inFlow : Bool) (line : Nat) (c : Cursor) : Bool :=
  match c.head? with
  | none => true
  | some x =>
    x = '\n' || (x = ':' && (inFlow || line = c.position.line)) ||
      (inFlow && (x = ',' || x = ']' || x = '}'))

/-- A scalar in quotes. -/
def quotedScalar (e : Edition) (s : Scan) (quote : Char) : Except Fault Scan := do
  let p := s.cursor.position
  let s ← s.nominate e
  let piece ← (s.cursor.advance e).quoted e quote s.indent
  let s := { s with keyAllowed := false, cursor := piece.cursor, atLineStart := false }
  let kind := .scalar .quoted (String.ofList piece.text)
  match e with
  | .early => return s.push kind p
  | .late =>
    let s ← s.takeTrailing e
    if !mayFollowQuote s.inFlow p.line s.cursor then throw s.fault
    let s ← s.skipInterval e
    return { s with adjacent := some s.cursor.position.index }.push kind p

/-- A block of lines. -/
def blockScalar (e : Edition) (s : Scan) (isLiteral : Bool) : Except Fault Scan := do
  let p := s.cursor.position
  let s ← if e = .early then s.forget else s.nominate e
  let s := s.dropBare s.indents
  let c := s.cursor.advance e
  match blockHeader? c.rest with
  | none => throw c.position.fault
  | some (h, n) =>
    let line := (← (c.advanceBy e n).trailing e).cursor
    if !e.isLineEnd line.head? then throw line.position.fault
    let lines := line.advance e
    if e = .late && lines.head? = some '\t' then throw lines.position.fault
    let piece ← lines.block e isLiteral s.indent h line.head?.isSome
    return { s with
      cursor := piece.cursor
      keyAllowed := true
      atLineStart := true }.push (.scalar .quoted (String.ofList piece.text)) p

/-! ## Documents -/

/-- With all collections ended, and no key to come on this line. -/
def endDocument (s : Scan) : Except Fault Scan := do
  let s ← (s.unroll (-1)).forget
  return { s with keyAllowed := false }

/-- A mark of a document. -/
def documentMark (e : Edition) (s : Scan) (kind : Token.Kind) : Except Fault Scan := do
  let p := s.cursor.position
  let s ← s.endDocument
  let s := { s with cursor := s.cursor.advanceBy e 3, atLineStart := false }.push kind p
  if e = .late && kind = .finish then
    let t ← s.cursor.trailing e
    if !e.isLineEnd t.cursor.head? then throw t.cursor.position.fault
    return { s with cursor := t.cursor }
  return s

/-- A directive. -/
def directive (e : Edition) (s : Scan) : Except Fault Scan := do
  let p := s.cursor.position
  let s ← s.endDocument
  let (kind, rest) ← (s.cursor.advance e).directive e
  return { s with cursor := rest, atLineStart := true }.push kind p

/-- The end of the text.  It stands on a line of its own. -/
def finish (e : Edition) (s : Scan) : Except Fault Scan := do
  let p := s.cursor.position
  let p := if p.column = 0 then p else ⟨p.index, p.line + 1, 0⟩
  let s := { s with cursor := ⟨p, []⟩ }
  let isMissed := e = .late && s.candidates.any fun c => c.any Candidate.isRequired
  if isMissed then throw s.fault
  return (← s.endDocument).push .theEnd p

/-! ## Steps -/

/-- Whether a colon or a question mark is a mark here and not the beginning of a plain scalar. -/
def isMark (e : Edition) (s : Scan) (c : Char) : Bool :=
  let next := s.cursor.next?
  e.isGap next ||
    (s.inFlow &&
      (e = .early ||
        (c = ':' && (next.any isFlowMark || s.adjacent = some s.cursor.position.index))))

/-- Whether a plain scalar begins with a character in the early edition. -/
def earlyPlainStart (s : Scan) (c : Char) : Bool :=
  !"-?:,[]\x7b\x7d#&*!|>'\"%@`\t".toList.contains c || c = '-' ||
    (!s.inFlow && (c = '?' || c = ':'))

/-- Reads the token that begins with a character. -/
def token (e : Edition) (s : Scan) (c : Char) : Except Fault Scan :=
  let isFirst := s.cursor.column = 0
  let isDocumentMark := isFirst && e.atDocumentMark s.cursor.rest
  let p := s.cursor.position
  let noToken := .error (.problem .noToken p.line p.column)
  if isFirst && c = '%' then s.directive e
  else if isDocumentMark && c = '-' then s.documentMark e .start
  else if isDocumentMark then s.documentMark e .finish
  else if c = '[' then s.openBracket e .openList
  else if c = '{' then s.openBracket e .openMap
  else if c = ']' then s.closeBracket e .closeList
  else if c = '}' then s.closeBracket e .closeMap
  else if c = ',' then s.comma e
  else if c = '-' && e.isGap s.cursor.next? then s.dash e
  else if c = '?' && s.isMark e c then s.keyMark e
  else if c = ':' && s.isMark e c then s.valueMark e
  else if c = '*' then s.anchor e .alias
  else if c = '&' then s.anchor e .anchor
  else if c = '!' then s.tag e
  else if c = '|' && !s.inFlow then s.blockScalar e true
  else if c = '>' && !s.inFlow then s.blockScalar e false
  else if c = '\'' || c = '"' then s.quotedScalar e c
  else if e = .early && !s.earlyPlainStart c then noToken
  else if e = .late && (c = '%' || c = '@' || c.toNat = 0x60) then noToken
  else s.plainScalar e

/-- Reads the next token. -/
def step (e : Edition) (s : Scan) : Except Fault Scan := do
  let s ← (← s.skipInterval e).giveUpStale e
  let s := s.unroll s.cursor.column
  match s.cursor.head? with
  | none => s.finish e
  | some c => if e = .late && s.cursor.column < s.indent then throw s.fault else s.token e c

/-- The tokens of a text and the fault that ends it, if there is one. -/
structure Tokens where
  /-- The tokens in order. -/
  tokens : List Token
  /-- The fault. -/
  fault : Option Fault
  deriving Inhabited

/-- Takes steps up to the end of the text, so many at most. -/
def run (e : Edition) : Nat → Scan → Tokens
  | 0, s => ⟨s.tokens.reverse, some s.fault⟩
  | n + 1, s =>
    match s.giveUpStale e with
    | .error f => ⟨s.certain.reverse, some f⟩
    | .ok s =>
      match s.step e with
      | .error f => ⟨s.certain.reverse, some f⟩
      | .ok s' =>
        match s'.tokens with
        | ⟨.theEnd, _, _⟩ :: _ => ⟨s'.tokens.reverse, none⟩
        | _ => run e n s'

end Scan

/-- The tokens of the characters of a text. -/
def Edition.tokens (e : Edition) (cs : List Char) : Scan.Tokens :=
  match e with
  | .early =>
    match controlOffset? 0 cs with
    | some offset => ⟨[], some (.control offset)⟩
    | none =>
      let cs := if cs.head? = some byteOrderMark then cs.tail else cs
      Scan.run e (cs.length + 1) (.initial (normalized e cs))
  | .late =>
    let cs := cs.takeWhile fun c => c.toNat ≠ 0
    Scan.run e (cs.length + 1) (.initial (normalized e cs))

end RoundWorkflow.Yaml
