import RoundWorkflow.Text.Number
import RoundWorkflow.Yaml

/-!
# What a plain scalar stands for

A plain scalar may stand for nothing at all, for a truth value or for a number;
otherwise it stands for its text.  Digits after a leading zero are text, so that a
code of digits keeps its zeros.
-/

namespace RoundWorkflow.Yaml

/-- What a plain scalar stands for. -/
inductive Meaning where
  | null
  | bool (value : Bool)
  | integer (value : Int)
  | double (value : Double)
  | text (value : String)
  deriving DecidableEq, Repr, Inhabited

/-- Whether the characters are digits after a leading zero, and maybe a sign. -/
def isDigitCode (cs : List Char) : Bool :=
  match (Text.splitSign cs).2 with
  | '0' :: rest => !rest.isEmpty && rest.all Char.isDigit
  | _ => false

/-- The number that digits of a base after its mark denote. -/
def markedNatural? : List Char → Option Nat
  | '0' :: 'x' :: ds => Text.basedNatural? 16 ds
  | '0' :: 'o' :: ds => Text.basedNatural? 8 ds
  | '0' :: 'b' :: ds => Text.basedNatural? 2 ds
  | _ => none

/-- Whether an integer fits 128 bits, with or without a sign. -/
def isInRange (i : Int) : Bool := -Nat.pow 2 127 ≤ i && i < Nat.pow 2 128

/-- The integer that a plain scalar stands for. -/
def plainInteger? (cs : List Char) : Option Int :=
  let (minus, body) := Text.splitSign cs
  let i : Option Int := match markedNatural? body with
    | some n => some (if minus then -(n : Int) else n)
    | none => if isDigitCode cs then none else Text.integer? cs
  i.filter isInRange

/-- The number that a plain scalar stands for, when it is no integer. -/
def plainDouble? (cs : List Char) : Option Double :=
  let (minus, body) := Text.splitSign cs
  match String.ofList body with
  | ".inf" | ".Inf" | ".INF" => some (Double.ofMagnitude minus Double.infinityBits)
  | _ =>
    match String.ofList cs with
    | ".nan" | ".NaN" | ".NAN" => some Double.nan
    | _ => (Text.double? cs).filter Double.isFinite

/-- Whether a word stands for nothing at all. -/
def isNullWord (s : String) : Bool := s = "~" || s = "null" || s = "Null" || s = "NULL"

/-- The truth value that a word stands for. -/
def truth? (s : String) : Option Bool :=
  match s with
  | "true" | "True" | "TRUE" => some true
  | "false" | "False" | "FALSE" => some false
  | _ => none

/-- What a plain scalar stands for. -/
def meaning (s : String) : Meaning :=
  if s = "" || isNullWord s then .null
  else
    match truth? s, plainInteger? s.toList, plainDouble? s.toList with
    | some b, _, _ => .bool b
    | none, some i, _ => .integer i
    | none, none, some d => if isDigitCode s.toList then .text s else .double d
    | none, none, none => .text s

end RoundWorkflow.Yaml
