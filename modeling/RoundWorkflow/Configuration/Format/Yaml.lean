import RoundWorkflow.Dict
import RoundWorkflow.Json
import RoundWorkflow.Text.Number
import RoundWorkflow.Yaml.Reader

/-!
# Settings in YAML

A file of settings is one document of the late edition, or none at all.  A scalar in
quotes is a text.  A plain one may stand for nothing, a truth value or a number
(`Scalar.ofPlain`), unless a tag says what it is (`Scalar.ofTagged`).

The names of a map are scalars, no two of them alike as values.  A name with a tag that
does not fit it is passed over: what comes next in the map is taken for a name instead.
-/

namespace RoundWorkflow.Settings

/-- What a scalar stands for. -/
inductive Scalar where
  | null
  | bool (value : Bool)
  | integer (value : Int)
  /-- A number that is no integer, by its text. -/
  | real (text : String)
  | text (text : String)
  /-- A scalar that is not of the type its tag says. -/
  | unknown
  deriving DecidableEq, Repr, Inhabited

namespace Scalar

/-- Reads an integer of 64 bits with a sign, in a base. -/
def signedInteger? (base : Nat) (cs : List Char) : Option Int :=
  let (minus, digits) := Text.splitSign cs
  ((Text.basedNatural? base digits).map fun n => if minus then -(n : Int) else n).filter
    Text.isInt64

/-- The words for numbers that are infinite, or none. -/
def numberWords : List String :=
  [".inf", ".Inf", ".INF", "+.inf", "+.Inf", "+.INF", "-.inf", "-.Inf", "-.INF", ".nan", ".NAN"]

/-- Whether a text is a number. -/
def isReal (s : String) : Bool := numberWords.contains s || (Text.double? s.toList).isSome

/-- The integer that a mark before its digits tells. -/
def markedInteger? : List Char → Option Int
  | '0' :: 'x' :: digits => signedInteger? 16 digits
  | '0' :: 'o' :: digits => signedInteger? 8 digits
  | '+' :: digits => signedInteger? 10 digits
  | _ => none

/-- What a plain scalar without a tag stands for. -/
def ofPlain (s : String) : Scalar :=
  match markedInteger? s.toList with
  | some i => .integer i
  | none =>
    match s with
    | "" | "~" | "null" => .null
    | "true" => .bool true
    | "false" => .bool false
    | _ =>
      match signedInteger? 10 s.toList with
      | some i => .integer i
      | none => if isReal s then .real s else .text s

/-- What a plain scalar with a tag stands for. -/
def ofTagged (t : Yaml.Tag) (s : String) : Scalar :=
  if t.handle ≠ Yaml.Tag.coreHandle then .text s
  else
    match t.suffix with
    | "bool" => if s = "true" then .bool true else if s = "false" then .bool false else .unknown
    | "int" => ((signedInteger? 10 s.toList).map .integer).getD .unknown
    | "float" => if isReal s then .real s else .unknown
    | "null" => if s = "~" || s = "null" then .null else .unknown
    | _ => .text s

/-- What a scalar stands for. -/
def ofNode (style : Yaml.Style) (s : String) (tag : Option Yaml.Tag) : Scalar :=
  match style, tag with
  | .quoted, _ => .text s
  | .plain, some t => ofTagged t s
  | .plain, none => ofPlain s

/-- The setting of a scalar.  The words for numbers are none. -/
def setting? : Scalar → Option Json
  | .null | .unknown => some .null
  | .bool b => some (.bool b)
  | .integer i => some (.number (.integer i))
  | .real s => (Text.double? s.toList).map fun d => .number (.double d)
  | .text s => some (.string s)

/-- The name that a scalar is. -/
def name? : Scalar → Option String
  | .text s | .real s => some s
  | .integer i => some (String.ofList (Text.integerText i))
  | .bool b => some (if b then "true" else "false")
  | .null | .unknown => none

end Scalar

/-- What a node of a document is worth. -/
structure Worth where
  /-- The scalar that it is. -/
  scalar : Option Scalar
  /-- The setting that it is. -/
  setting : Option Json
  deriving Inhabited

/-- The names of a map and what they are worth, from the nodes in it one after the other. -/
def membersOf : List Worth → List (Option Scalar × Option Json)
  | [] | [_] => []
  | k :: v :: rest =>
    if k.scalar = some .unknown then membersOf (v :: rest) else
      (k.scalar, v.setting) :: membersOf rest

/-- The members of a map, if each has a name and a setting. -/
def members? : List (Option Scalar × Option Json) → Option (List (String × Json))
  | [] => some []
  | (key, setting) :: rest => do
    let name ← key.bind Scalar.name?
    let j ← setting
    return (name, j) :: (← members? rest)

/-- Whether no two names of a map are alike. -/
def areApart : List (Option Scalar × Option Json) → Bool
  | [] => true
  | (key, _) :: rest => !(rest.any fun m => m.1 = key) && areApart rest

/-- The map of its nodes. -/
def mapping? (nodes : List Worth) : Option Json :=
  let members := membersOf nodes
  if areApart members then (members? members).map fun ms =>
    .object (Dict.ofList ms).entries else none

mutual

/-- What a node is worth. -/
def worth : Yaml.Node → Worth
  | .scalar style s tag =>
    let scalar := Scalar.ofNode style s tag
    ⟨some scalar, scalar.setting?⟩
  | .sequence items => ⟨none, (itemsWorth items).mapM Worth.setting |>.map .array⟩
  | .mapping entries => ⟨none, mapping? (entriesWorth entries)⟩
  | .broken _ => ⟨none, none⟩

/-- What the items of a list are worth. -/
def itemsWorth : List Yaml.Node → List Worth
  | [] => []
  | n :: rest => worth n :: itemsWorth rest

/-- What the nodes in a map are worth, keys and values in turn. -/
def entriesWorth : List (Yaml.Node × Yaml.Node) → List Worth
  | [] => []
  | (k, v) :: rest => worth k :: worth v :: entriesWorth rest

end

/-- The tree of settings of a YAML text. -/
def ofYaml? (text : String) : Option Json :=
  let documents := Yaml.Edition.late.documents text
  if documents.any fun d => d.fault.isSome then none
  else
    match documents with
    | [] => some (.object [])
    | [document] => (worth document.root).setting
    | _ => none

end RoundWorkflow.Settings
