import RoundWorkflow.Error
import RoundWorkflow.Text.Blank
import RoundWorkflow.Text.AsciiCase

/-!
# Reading the names of rounds, events and keys

A name may have blanks around it.  What remains has to be the exact name of a
round, or the symbol of an event in any case of its ASCII letters.  An error
quotes what remains.

A key is written `(Round, EVENT)`: one opening parenthesis, a round, the first
comma, an event, one closing parenthesis (`Key.parts?`).  The error of a text that
has not this shape quotes the text as it is, blanks included.
-/

namespace RoundWorkflow

/-- Reads the name of a round. -/
def Round.parse (s : String) : Except Error Round :=
  let name := Text.trimmed s
  match (Enumeration.ofName? name : Option Round) with
  | some r => .ok r
  | none => .error (.unknownRound name)

/-- The event whose symbol a text spells, up to the case of ASCII letters. -/
def Event.ofSymbol? (s : String) : Option Event :=
  Event.all.find? fun e => Text.sameUpToCase e.name s

/-- Reads the symbol of an event. -/
def Event.parse (s : String) : Except Error Event :=
  let symbol := Text.trimmed s
  match Event.ofSymbol? symbol with
  | some e => .ok e
  | none => .error (.unknownEvent symbol)

/-- The characters between one opening parenthesis at the start and one closing at the end. -/
def Key.inside? (cs : List Char) : Option (List Char) :=
  match cs with
  | '(' :: rest =>
    match rest.reverse with
    | ')' :: inner => some inner.reverse
    | _ => none
  | _ => none

/-- The characters before and after the first comma. -/
def Key.splitComma? (cs : List Char) : Option (List Char × List Char) :=
  match cs.dropWhile (· ≠ ',') with
  | _ :: after => some (cs.takeWhile (· ≠ ','), after)
  | [] => none

/-- The two sides of a key: what stands between the parentheses before and after the first comma. -/
def Key.parts? (s : String) : Option (String × String) :=
  ((Key.inside? (Text.trim s.toList)).bind Key.splitComma?).map fun p =>
    (String.ofList p.1, String.ofList p.2)

/-- Reads a key; the round is read before the event. -/
def Key.parse (s : String) : Except Error Key :=
  match Key.parts? s with
  | none => .error (.malformedKey s)
  | some (round, event) => do
    let r ← Round.parse round
    let e ← Event.parse event
    return ⟨r, e⟩

end RoundWorkflow
