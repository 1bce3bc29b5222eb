import RoundWorkflow.Json.Token

/-!
# Reading JSON

The tokens of a text are put together by a machine with a stack (`Build`).  The
stack holds the containers that are open, innermost first, and the state says
what is due: a value, a key, a colon, or what may follow a value.  One token is
one step, so the machine stops on every text, and nesting is limited only by the
length of the text.
-/

namespace RoundWorkflow.Json

/-- An open container with what it holds so far, newest first. -/
inductive Frame where
  | array (items : List Json)
  /-- An object whose last key waits for its value.  A key may denote nothing. -/
  | object (members : List (Option String × Json)) (key : Option String)
  deriving Inhabited

/-- The members up to the first key that denotes nothing. -/
def namedMembers : List (Option String × Json) → List (String × Json)
  | (some k, j) :: rest => (k, j) :: namedMembers rest
  | _ => []

/-- The object with these members. -/
def ofMembers (members : List (Option String × Json)) : Json :=
  if members.all fun m => m.1.isSome then .object (namedMembers members)
  else .cutShort (namedMembers members)

/-- The state of the machine.  `closable` says that the container may also end here. -/
inductive Build where
  /-- A value is due. -/
  | value (stack : List Frame) (closable : Bool)
  /-- A key is due in an object with these members, newest first. -/
  | key (stack : List Frame) (members : List (Option String × Json)) (closable : Bool)
  /-- The colon after a key is due. -/
  | colon (stack : List Frame) (members : List (Option String × Json)) (key : Option String)
  /-- A value is complete; a comma, the end of its container or the end of the text is due. -/
  | after (stack : List Frame) (value : Json)
  deriving Inhabited

/-- One token. -/
def Build.step : Build → Token → Option Build
  | .value stack _, .scalar j => some (.after stack j)
  | .value stack _, .text (some s) => some (.after stack (.string s))
  | .value stack _, .text none => some (.after stack .unreadable)
  | .value stack _, .openArray => some (.value (.array [] :: stack) true)
  | .value stack _, .openObject => some (.key stack [] true)
  | .value (.array [] :: stack) true, .closeArray => some (.after stack (.array []))
  | .key stack members _, .text k => some (.colon stack members k)
  | .key stack [] true, .closeObject => some (.after stack (.object []))
  | .colon stack members k, .colon => some (.value (.object members k :: stack) false)
  | .after (.array items :: stack) j, .comma => some (.value (.array (j :: items) :: stack) false)
  | .after (.object members k :: stack) j, .comma => some (.key stack ((k, j) :: members) false)
  | .after (.array items :: stack) j,
      .closeArray => some (.after stack (.array (j :: items).reverse))
  | .after (.object members k :: stack) j, .closeObject =>
    some (.after stack (ofMembers ((k, j) :: members).reverse))
  | _, _ => none

/-- All tokens in turn. -/
def Build.run (b : Build) : List Token → Option Build
  | [] => some b
  | t :: ts =>
    match b.step t with
    | some b' => b'.run ts
    | none => none

/-- The value of a complete text. -/
def Build.finish : Build → Option Json
  | .after [] j => some j
  | _ => none

/-- The value of a list of tokens. -/
def ofTokens? (ts : List Token) : Option Json :=
  (Build.run (.value [] false) ts).bind Build.finish

/-- The value of the characters of a text. -/
def ofChars? (cs : List Char) : Option Json :=
  (tokens? cs).bind ofTokens?

/-- The value of a text that is one JSON document. -/
def ofText? (s : String) : Option Json := ofChars? s.toList

end RoundWorkflow.Json
