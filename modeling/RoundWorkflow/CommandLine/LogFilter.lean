import RoundWorkflow.Text.Blank
import RoundWorkflow.Text.Decimal
import RoundWorkflow.Text.Letter
import RoundWorkflow.Text.Parts

/-!
# Log filters

What is logged is told by a filter: directives with commas between them.  A directive is
a level, or the name of a target, which may have a span in brackets after it, and after
an equals sign a level for the target.  A span may have fields in braces.

A filter is either used as it is or not at all (`isValid`), or it is used without the
directives that are not valid.  For each of these there is a remark (`remarks`).
-/

namespace RoundWorkflow.LogFilter

/-- What is wrong with a directive. -/
inductive Fault where
  /-- It is not of the form of a directive. -/
  | malformed
  /-- It ends in a word that is no level. -/
  | unknownLevel
  deriving DecidableEq, Repr, Inhabited

/-- The wording of a fault. -/
def Fault.message : Fault → String
  | .malformed => "invalid filter directive"
  | .unknownLevel =>
    "error parsing level filter: expected one of \"off\", \"error\", \"warn\", \"info\", " ++
      "\"debug\", \"trace\", or a number 0-5"

/-- The names of the levels. -/
def levels : List String := ["off", "error", "warn", "info", "debug", "trace"]

/-- Whether characters name a level: by its name in letters of any size, by its number, or not at
all. -/
def isLevel (cs : List Char) : Bool :=
  let digits := match cs with
    | '+' :: rest => rest
    | cs => cs
  cs.isEmpty || levels.contains (String.ofList (cs.map Char.toLower)) ||
    (Text.natural? digits).any (· ≤ 5)

/-- Where the reading of a directive stands. -/
inductive Position where
  | start
  /-- In the name of a target, or in a level alone. -/
  | name
  | span
  /-- In a field of a span; the flag tells whether the field is empty so far. -/
  | field (isEmpty : Bool)
  /-- After the fields of a span. -/
  | fields
  /-- After a span. -/
  | target
  | level
  deriving DecidableEq, Repr, Inhabited

/-- Whether a directive may begin with a character. -/
def begins (c : Char) : Bool := c = '-' || c = ':' || c = '_' || Text.isAlphanumeric c

/-- The position after a character. -/
def Position.next? : Position → Char → Option Position
  | .start, c => if c = '[' then some .span else if begins c then some .name else none
  | .name, c => some (if c = '=' then .level else if c = '[' then .span else .name)
  | .span, c => some (if c = ']' then .target else if c = '\x7b' then .field true else .span)
  | .field isEmpty,
      c => if c ≠ '\x7d' then some (.field false) else if isEmpty then none else some .fields
  | .fields, c => if c = ']' then some .target else none
  | .target, c => if c = '=' then some .level else none
  | .level, _ => some .level

/-- Whether a directive may end at a position. -/
def Position.isFinal : Position → Bool
  | .name | .target | .level => true
  | _ => false

/-- The position after some characters. -/
def position? (cs : List Char) : Option Position := cs.foldlM Position.next? .start

/-- The level that a directive ends in, from the first equals sign after the name and the span.
Blanks around the directive belong to it. -/
def levelOf (position : Position) : List Char → List Char
  | [] => []
  | c :: rest =>
    match position.next? c with
    | some .level => rest
    | some p => levelOf p rest
    | none => []

/-- What is wrong with a directive, if anything is. -/
def fault? (cs : List Char) : Option Fault :=
  match position? (Text.trim cs) with
  | none => some .malformed
  | some p =>
    if !p.isFinal then some .malformed
    else if p = .level &&
        ((cs.head?.map Text.isBlank).getD false || !isLevel (levelOf .start cs)) then
      some .unknownLevel
    else none

/-- The directives of a filter. -/
def directives (s : String) : List (List Char) :=
  (Text.parts ',' s.toList).filter fun cs => !cs.isEmpty

/-- Whether all directives of a filter are valid. -/
def isValid (s : String) : Bool := (directives s).all fun cs => (fault? cs).isNone

/-- The remark on a directive that is left out. -/
def remark (cs : List Char) (fault : Fault) : String :=
  "ignoring `" ++ String.ofList cs ++ "`: " ++ fault.message ++ "\n"

/-- The remarks on a filter that is used without the directives that are not valid. -/
def remarks (s : String) : String :=
  String.join ((directives s).filterMap fun cs => (fault? cs).map (remark cs))

end RoundWorkflow.LogFilter
