import RoundWorkflow.Json.Fields
import RoundWorkflow.Text.Escaped

/-!
# Values of the wrong kind

When a value is read as a type it does not have, the message names what was found
and what was expected.  `Found` says what was found, and `Mismatch` how it fails:
it has another type, it has the type and a value outside its range, or it is a
name outside a closed list.
-/

namespace RoundWorkflow.Json

/-- What was found in place of the expected value. -/
inductive Found where
  | null
  /-- Nothing, in a document of another format. -/
  | unit
  | bool (value : Bool)
  | integer (value : Int)
  /-- A whole number of more than 64 bits, with or without a sign. -/
  | wideInteger (value : Int)
  | double (value : Double)
  /-- A double that is shown without an exponent. -/
  | pointed (value : Double)
  | string (value : String)
  | array
  | object
  deriving DecidableEq, Repr, Inhabited

/-- What a value is found to be. -/
def found : Json → Found
  | .bool b => .bool b
  | .number (.integer i) => .integer i
  | .number (.double d) => .double d
  | .string s => .string s
  | .array _ => .array
  | .object _ | .cutShort _ => .object
  | _ => .null

/-- The words for what was found. -/
def Found.text : Found → String
  | .null => "null"
  | .unit => "unit value"
  | .bool true => "boolean `true`"
  | .bool false => "boolean `false`"
  | .integer i => "integer `" ++ String.ofList (Text.integerText i) ++ "`"
  | .wideInteger i =>
    "integer `" ++ String.ofList (Text.integerText i) ++
      (if i < 0 then "` as i128" else "` as u128")
  | .double d => "floating point `" ++ String.ofList d.dataText ++ "`"
  | .pointed d => "floating point `" ++ String.ofList d.pointedText ++ "`"
  | .string s => "string " ++ Text.shown s
  | .array => "sequence"
  | .object => "map"

/-- How a value fails to be of the expected type. -/
inductive Mismatch where
  /-- The value has another type. -/
  | type (found : Found) (expected : String)
  /-- The value is outside the range of the type. -/
  | value (found : Found) (expected : String)
  /-- The name is not one of a closed list. -/
  | unknownName (name : String) (expected : List String)
  deriving DecidableEq, Repr, Inhabited

/-- The words for a name outside a closed list. -/
def unknownNameText (name : String) (expected : List String) : String :=
  "unknown variant `" ++ name ++ "`, expected one of " ++
    String.intercalate ", " (expected.map fun n => "`" ++ n ++ "`")

/-- The text of a mismatch. -/
def Mismatch.message : Mismatch → String
  | .type found expected => "invalid type: " ++ found.text ++ ", expected " ++ expected
  | .value found expected => "invalid value: " ++ found.text ++ ", expected " ++ expected
  | .unknownName name expected => unknownNameText name expected

/-- The types a value can be read as. -/
inductive Wanted where
  | uint64
  | uint8
  | int64
  | bool
  | string
  /-- An array of strings. -/
  | strings
  | round
  deriving DecidableEq, Repr, Inhabited

/-- A whole number between two limits; `expected` names the type. -/
def readInteger (low high : Int) (expected : String) : Json → Except Mismatch Json
  | .number (.integer i) =>
    if low ≤ i ∧ i ≤ high then .ok (.number (.integer i)) else .error (.value (.integer i) expected)
  | j => .error (.type j.found expected)

/-- A string. -/
def readString : Json → Except Mismatch Json
  | .string s => .ok (.string s)
  | j => .error (.type j.found "a string")

/-- Strings all of them; the first that is not one is reported. -/
def readStrings : List Json → Except Mismatch (List Json)
  | [] => .ok []
  | j :: rest => do
    let s ← readString j
    let ss ← readStrings rest
    return s :: ss

/-- A name of a closed enumeration. -/
def readName (α : Type) [DecidableEq α] [Enumeration α] (s : String) : Except Mismatch Json :=
  match (Enumeration.ofName? s : Option α) with
  | some a => .ok (.string (Enumeration.name a))
  | none => .error (.unknownName s (Enumeration.names α))

/-- A member of a closed enumeration. -/
def readMember (α : Type) [DecidableEq α] [Enumeration α] : Json → Except Mismatch Json
  | .string s => readName α s
  | .object [(k, j)] => do
    let name ← readName α k
    match j with
    | .null => return name
    | j => throw (.type j.found "unit")
  | .object _ => .error (.value .object "map with a single key")
  | j => .error (.type j.found "string or map")

/-- A value read as a type. -/
def readAs (round : Json → Except Mismatch Json) : Wanted → Json → Except Mismatch Json
  | .uint64, j => readInteger 0 (UInt64.size - 1) "u64" j
  | .uint8, j => readInteger 0 (UInt8.size - 1) "u8" j
  | .int64, j => readInteger (-Nat.pow 2 63) (Nat.pow 2 63 - 1) "i64" j
  | .bool, .bool b => .ok (.bool b)
  | .bool, j => .error (.type j.found "a boolean")
  | .string, j => readString j
  | .strings, .array items => (readStrings items).map .array
  | .strings, j => .error (.type j.found "a sequence")
  | .round, j => round j

end RoundWorkflow.Json
