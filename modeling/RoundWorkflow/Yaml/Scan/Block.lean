import RoundWorkflow.Yaml.Scan.Plain

/-!
# Scalars in blocks of lines

After a bar or an angle bracket the lines that follow are the scalar, as far as they
stand in one column or further to the right.  The column is that of the first line that
is not empty, unless a digit after the mark gives it.  After a bar the line ends are
kept, and after an angle bracket they are folded, except beside lines that begin with a
space.  A plus after the mark keeps all line ends after the last line, a minus none, and
otherwise there is one.
-/

namespace RoundWorkflow.Yaml

/-- What becomes of the line ends after the last line. -/
inductive Chomp where
  | strip
  | clip
  | keep
  deriving DecidableEq, Repr, Inhabited

/-- What stands after the mark of a block. -/
structure BlockHeader where
  /-- What becomes of the line ends after the last line. -/
  chomp : Chomp
  /-- The spaces before a line, if they are given. -/
  increment : Option Nat
  deriving Repr, Inhabited

/-- What becomes of the line ends, by the sign for it. -/
def chomp? (c : Char) : Option Chomp :=
  if c = '+' then some .keep else if c = '-' then some .strip else none

/-- The header that the characters after the mark of a block are, and their number; the digit must
not be zero. -/
def blockHeader? : List Char → Option (BlockHeader × Nat)
  | c :: rest =>
    match chomp? c with
    | some chomp =>
      match rest with
      | d :: _ =>
        if d = '0' then none
        else if d.isDigit then some (⟨chomp, some (d.toNat - 48)⟩, 2)
        else some (⟨chomp, none⟩, 1)
      | [] => some (⟨chomp, none⟩, 1)
    | none =>
      if c = '0' then none
      else if c.isDigit then
        match rest.head?.bind chomp? with
        | some chomp => some (⟨chomp, some (c.toNat - 48)⟩, 2)
        | none => some (⟨.clip, some (c.toNat - 48)⟩, 1)
      else some (⟨.clip, none⟩, 0)
  | [] => some (⟨.clip, none⟩, 0)

/-- The lines of a block so far; all of its text is given newest first. -/
structure BlockLines where
  /-- The text of the lines. -/
  text : List Char
  /-- The end of the last line. -/
  ending : Option Char
  /-- The ends of the empty lines after it. -/
  empties : List Char
  /-- Whether the last line begins with a space. -/
  beginsBlank : Bool
  /-- The column of the lines, once it is known. -/
  column : Option Nat
  /-- The widest margin of the empty lines before the first line. -/
  widest : Nat
  deriving Repr, Inhabited

/-- With a line that begins with a character. -/
def BlockLines.beginLine (b : BlockLines) (isLiteral : Bool) (c : Char) : BlockLines :=
  let isFolded := !isLiteral && b.ending = some '\n' && !b.beginsBlank && !isSpace c
  let joint := if isFolded then if b.empties.isEmpty then [' '] else [] else b.ending.toList
  { b with
    text := c :: (b.empties ++ joint ++ b.text)
    ending := none
    empties := []
    beginsBlank := isSpace c }

/-- The column of the lines of a block inside a collection at a column. -/
def Edition.blockColumn (e : Edition) (outer : Int) (widest : Nat) : Nat :=
  let least := (outer + 1).toNat
  max widest (if e = .early || 0 < outer then max least 1 else least)

/-- Reads on in a block inside a collection at a column; `inLine` says that a line has begun. -/
def readBlock (e : Edition) (isLiteral : Bool) (outer : Int) (b : BlockLines) (inLine : Bool)
    (p : Position) : List Char → Except Fault (BlockLines × Cursor)
  | [] => .ok (b, ⟨p, []⟩)
  | c :: rest =>
    if inLine then
      if e.isBreak c then
        readBlock e isLiteral outer { b with ending := some c } false (p.after e c) rest
      else readBlock e isLiteral outer { b with text := c :: b.text } true (p.after e c) rest
    else
      let isMargin := b.column.all fun n => p.column < n
      if c = ' ' && isMargin then readBlock e isLiteral outer b false (p.after e c) rest
      else if c = '\t' && isMargin && e = .early then .error p.fault
      else
        let b := { b with widest := max b.widest p.column }
        if e.isBreak c then
          readBlock e isLiteral outer { b with empties := c :: b.empties } false (p.after e c) rest
        else
          let column := b.column.getD (e.blockColumn outer b.widest)
          let isFirst := b.text.isEmpty
          if e = .late && isFirst && p.column < column && outer < p.column then .error p.fault
          else if p.column ≠ column ||
              (e = .late && column = 0 && e.atDocumentMark (c :: rest)) then
            .ok ({ b with column := some column }, ⟨p, c :: rest⟩)
          else
            readBlock e isLiteral outer
              ({ b with column := some column }.beginLine isLiteral c) true
              (p.after e c) rest

/-- The text of a block that has been read up to a place. -/
def BlockLines.finish (b : BlockLines) (e : Edition) (chomp : Chomp) (atEnd : Bool) (p : Position) :
    List Char :=
  let isCut := e = .late && atEnd && max (b.column.getD 0) 1 ≤ p.column
  let ending := if chomp = .strip then [] else b.ending.toList ++ if isCut then ['\n'] else []
  let empties := if chomp = .keep then b.empties.reverse else []
  b.text.reverse ++ ending ++ empties

/-- The text of a block without lines, which the end of the text ends; `hasLine` says that a line
end comes after its mark. -/
def BlockLines.finishEmpty (b : BlockLines) (chomp : Chomp) (hasLine : Bool) : List Char :=
  if chomp = .strip || !hasLine then []
  else if chomp = .keep && !b.empties.isEmpty then b.empties.reverse
  else ['\n']

/-- Reads the lines of a block inside a collection at a column, after the line of its mark. -/
def Cursor.block (c : Cursor) (e : Edition) (isLiteral : Bool) (outer : Int) (h : BlockHeader)
    (hasLine : Bool) : Except Fault Piece := do
  let column := h.increment.map fun (n : Nat) => if 0 ≤ outer then (outer + n).toNat else n
  let (b, rest) ← readBlock e isLiteral outer ⟨[], none, [], false, column,
    0⟩ false c.position c.rest
  let atEnd := rest.rest.isEmpty
  let text :=
    if e = .late && atEnd && b.text.isEmpty then b.finishEmpty h.chomp hasLine
    else b.finish e h.chomp atEnd rest.position
  return ⟨text, true, rest⟩

end RoundWorkflow.Yaml
