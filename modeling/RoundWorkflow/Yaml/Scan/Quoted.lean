import RoundWorkflow.Yaml.Scan.Plain

/-!
# Scalars in quotes

Between single quotes a quote is written twice, and nothing else is special.  Between
double quotes a backslash begins an escape, and one at the end of a line joins the next
line without a space.  Line ends are folded as in a plain scalar.

In the late edition a line of the scalar must not begin to the left of the collection
around it.
-/

namespace RoundWorkflow.Yaml

/-- What has come since the last character of a quoted scalar, newest first. -/
inductive QuotedGap where
  /-- Nothing. -/
  | none
  /-- Spaces on the same line. -/
  | spaces (cs : List Char)
  /-- Line ends. -/
  | lines (breaks : List Char)
  /-- An escaped line end and what came after it; `moved` says that anything did. -/
  | joined (breaks : List Char) (moved : Bool)
  deriving DecidableEq, Repr, Inhabited

namespace QuotedGap

/-- What the gap is in the text of the scalar. -/
def text : QuotedGap → List Char
  | .none => []
  | .spaces cs => cs.reverse
  | .lines breaks => folded breaks.reverse
  | .joined breaks _ => breaks.reverse

/-- With one more space. -/
def withSpace (c : Char) : QuotedGap → QuotedGap
  | .none => .spaces [c]
  | .spaces cs => .spaces (c :: cs)
  | .lines breaks => .lines breaks
  | .joined breaks _ => .joined breaks true

/-- With one more line end. -/
def withBreak (c : Char) : QuotedGap → QuotedGap
  | .none | .spaces _ => .lines [c]
  | .lines breaks => .lines (c :: breaks)
  | .joined breaks _ => .joined (c :: breaks) true

/-- Whether a line has ended. -/
def isLines : QuotedGap → Bool
  | .none | .spaces _ => false
  | .lines _ | .joined .. => true

end QuotedGap

/-- Where the reading of a quoted scalar stands. -/
inductive QuotedMode where
  | text
  /-- After a single quote. -/
  | quote
  /-- After a backslash. -/
  | escape
  /-- Inside a code point: its value so far, and the number of digits that are due. -/
  | code (value due : Nat)
  deriving DecidableEq, Repr, Inhabited

/-- The character that an escape of one letter stands for. -/
def simpleEscape? (c : Char) : Option Char :=
  match c with
  | '0' => some (Char.ofNat 0)
  | 'a' => some (Char.ofNat 7)
  | 'b' => some (Char.ofNat 8)
  | 't' | '\t' => some '\t'
  | 'n' => some '\n'
  | 'v' => some (Char.ofNat 11)
  | 'f' => some (Char.ofNat 12)
  | 'r' => some '\r'
  | 'e' => some (Char.ofNat 27)
  | ' ' | '"' | '/' | '\\' => some c
  | 'N' => some (Char.ofNat 0x85)
  | '_' => some (Char.ofNat 0xA0)
  | 'L' => some (Char.ofNat 0x2028)
  | 'P' => some (Char.ofNat 0x2029)
  | _ => none

/-- The number of digits of the code point that an escape begins. -/
def codeLength? (c : Char) : Option Nat :=
  match c with
  | 'x' => some 2
  | 'u' => some 4
  | 'U' => some 8
  | _ => none

/-- The value of a hexadecimal digit. -/
def hexValue? (c : Char) : Option Nat :=
  if '0' ≤ c ∧ c ≤ '9' then some (c.toNat - 48)
  else if 'a' ≤ c ∧ c ≤ 'f' then some (c.toNat - 87)
  else if 'A' ≤ c ∧ c ≤ 'F' then some (c.toNat - 55)
  else none

/-- The character of a code point, if it is one. -/
def charOfCode? (n : Nat) : Option Char := if n.isValidChar then some (Char.ofNat n) else none

/-- Whether a gap is refused before a character. -/
def QuotedGap.isRefused (gap : QuotedGap) (e : Edition) (quote : Char) (indent : Int) (p : Position)
    (cs : List Char) : Bool :=
  gap ≠ .none &&
    ((p.column = 0 && e.atDocumentMark cs) ||
      (e = .late && p.column < indent && !(gap = .joined [] false && cs.head? = some quote)))

/-- Reads on in a quoted scalar, whose text so far is given newest first. -/
def readQuoted (e : Edition) (quote : Char) (indent : Int) (text : List Char) (gap : QuotedGap)
    (mode : QuotedMode) (p : Position) : List Char → Except Fault Piece
  | [] => if mode = .quote then .ok ⟨text.reverse, false, ⟨p, []⟩⟩ else .error p.fault
  | c :: rest =>
    match mode with
    | .quote =>
      if c = quote then readQuoted e quote indent (c :: text) .none .text (p.after e c) rest
      else .ok ⟨text.reverse, false, ⟨p, c :: rest⟩⟩
    | .escape =>
      if e.isBreak c then readQuoted e quote indent text (.joined [] false) .text (p.after e c) rest
      else
        match codeLength? c, simpleEscape? c with
        | some due, _ => readQuoted e quote indent text .none (.code 0 due) (p.after e c) rest
        | none, some d => readQuoted e quote indent (d :: text) .none .text (p.after e c) rest
        | none, none => .error p.fault
    | .code value due =>
      match hexValue? c with
      | none => .error p.fault
      | some h =>
        if 1 < due then
          readQuoted e quote indent text .none (.code (16 * value + h) (due - 1)) (p.after e c) rest
        else
          match charOfCode? (16 * value + h) with
          | some d => readQuoted e quote indent (d :: text) .none .text (p.after e c) rest
          | none => .error p.fault
    | .text =>
      if isSpace c then
        if e = .late && gap.isLines && c = '\t' && p.column < indent then .error p.fault
        else readQuoted e quote indent text (gap.withSpace c) .text (p.after e c) rest
      else if e.isBreak c then readQuoted e quote indent text (gap.withBreak c) .text
        (p.after e c) rest
      else if gap.isRefused e quote indent p (c :: rest) then .error p.fault
      else
        let text := gap.text.reverse ++ text
        if c = quote then
          if quote = '\'' then readQuoted e quote indent text .none .quote (p.after e c) rest
          else .ok ⟨text.reverse, false, ⟨p.after e c, rest⟩⟩
        else if c = '\\' && quote = '"' then
          readQuoted e quote indent text .none .escape (p.after e c) rest
        else readQuoted e quote indent (c :: text) .none .text (p.after e c) rest

/-- Reads a scalar between quotes of a kind, after the first of them. -/
def Cursor.quoted (c : Cursor) (e : Edition) (quote : Char) (indent : Int) : Except Fault Piece :=
  readQuoted e quote indent [] .none .text c.position c.rest

end RoundWorkflow.Yaml
