import RoundWorkflow.Yaml.Lines

/-!
# Plain scalars

A plain scalar goes on over spaces and line ends as long as text follows that is no mark.
The spaces inside of a line stay, and the line ends between two lines are folded.  A line
of the scalar outside of brackets has to stand further to the right than the collection
around it, and a tab cannot bring it there.
-/

namespace RoundWorkflow.Yaml

/-- What has come since the last character of a scalar, newest first. -/
inductive Gap where
  /-- Spaces on the same line. -/
  | spaces (cs : List Char)
  /-- Line ends, and spaces that do not count. -/
  | lines (breaks : List Char)
  deriving DecidableEq, Repr, Inhabited

namespace Gap

/-- What the gap is in the text of the scalar. -/
def text : Gap → List Char
  | .spaces cs => cs.reverse
  | .lines breaks => folded breaks.reverse

/-- With one more line end. -/
def withBreak (c : Char) : Gap → Gap
  | .spaces _ => .lines [c]
  | .lines breaks => .lines (c :: breaks)

/-- Whether a line has ended. -/
def isLines : Gap → Bool
  | .spaces _ => false
  | .lines _ => true

end Gap

/-- A scalar that was read. -/
structure Piece where
  /-- The text of the scalar. -/
  text : List Char
  /-- Whether a line ended after it. -/
  endedLine : Bool
  /-- What follows it. -/
  cursor : Cursor
  deriving Inhabited

/-- Whether a plain scalar ends before a character. -/
def Edition.endsPlain (e : Edition) (inFlow : Bool) (c : Char) (next : Option Char) : Bool :=
  (c = ':' && (e.isGap next || (e = .late && inFlow && next.any isFlowMark))) ||
    (inFlow && isFlowMark c)

/-- Whether a character and the next one must not stand in a plain scalar in brackets. -/
def Edition.spoilsPlain (e : Edition) (startsRun : Bool) (c : Char) (next : Option Char) : Bool :=
  if e = .early then c = ':' && next.any fun d => d = '?' || isFlowMark d
  else startsRun && c = '-' && next.any isFlowMark

/-- What a tab at the beginning of a line leaves room for. -/
inductive Room where
  /-- Text. -/
  | text
  /-- A comment or the end of the line. -/
  | remark
  /-- The end of the line. -/
  | lineEnd
  deriving DecidableEq, Repr, Inhabited

/-- Reads on in a plain scalar, whose text so far is given newest first.  A line of it begins at
`indent` or further to the right. -/
def readPlain (e : Edition) (inFlow : Bool) (indent : Int) (text : List Char) (gap : Gap)
    (room : Room) (p : Position) : List Char → Except Fault Piece
  | [] => .ok ⟨text.reverse, gap.isLines, ⟨p, []⟩⟩
  | c :: rest =>
    let startsRun := text.isEmpty || gap ≠ .spaces []
    if e.isBreak c then readPlain e inFlow indent text (gap.withBreak c) .text (p.after e c) rest
    else if room = .lineEnd then readPlain e inFlow indent text gap room (p.after e c) rest
    else if isSpace c then
      match gap with
      | .spaces cs => readPlain e inFlow indent text (.spaces (c :: cs)) room (p.after e c) rest
      | .lines _ =>
        if c = '\t' && p.column < indent then
          if e = .early then .error p.fault
          else readPlain e inFlow indent text gap .remark (p.after e c) rest
        else readPlain e inFlow indent text gap room (p.after e c) rest
    else if room = .remark then
      if c = '#' then readPlain e inFlow indent text gap .lineEnd (p.after e c) rest
        else .error p.fault
    else if startsRun &&
        ((!inFlow && gap.isLines && p.column < indent) ||
          (p.column = 0 && e.atDocumentMark (c :: rest)) ||
          c = '#') then
      .ok ⟨text.reverse, gap.isLines, ⟨p, c :: rest⟩⟩
    else if inFlow && e.spoilsPlain startsRun c rest.head? then .error p.fault
    else if e.endsPlain inFlow c rest.head? then .ok ⟨text.reverse, gap.isLines, ⟨p, c :: rest⟩⟩
    else readPlain e inFlow indent (c :: (gap.text.reverse ++ text)) (.spaces []) room
      (p.after e c) rest

/-- Reads a plain scalar. -/
def Cursor.plain (c : Cursor) (e : Edition) (inFlow : Bool) (indent : Int) : Except Fault Piece :=
  readPlain e inFlow indent [] (.spaces []) .text c.position c.rest

end RoundWorkflow.Yaml
