/-!
# YAML documents

A text is a sequence of documents, and a document is one value: a scalar, a list or a
map.  A `Node` keeps the order of a map and its repeated keys, and tells a plain scalar
from a quoted one, because only a plain one may stand for something other than its text.

Two editions of the format are in use, and a text may be a document in one and not in
the other: tables are written in the early one, configurations in the late one.

Where a text stops being YAML the value read so far ends with `Node.broken`.  So a reader
that goes through a value from its beginning meets a fault in the text where it stands.
-/

namespace RoundWorkflow.Yaml

/-- An edition of the format. -/
inductive Edition where
  /-- Version 1.1. -/
  | early
  /-- Version 1.2. -/
  | late
  deriving DecidableEq, Repr, Inhabited

/-! ## Faults -/

/-- What is wrong at a place of a text. -/
inductive Problem where
  /-- No token begins with the character. -/
  | noToken
  /-- A value is due, and the token begins none. -/
  | noContent
  /-- An alias for no node. -/
  | unknownAnchor
  /-- A tag with a handle that is not declared. -/
  | unknownHandle
  /-- A document of another version. -/
  | otherVersion
  /-- Another deviation from the grammar. -/
  | ungrammatical
  deriving DecidableEq, Repr, Inhabited

/-- Why a text is not YAML. -/
inductive Fault where
  /-- A character that may not occur at all, and the bytes before it. -/
  | control (offset : Nat)
  /-- A problem at a place of the text. -/
  | problem (problem : Problem) (line column : Nat)
  deriving DecidableEq, Repr, Inhabited

/-- The wording of a problem. -/
def Problem.message : Problem → String
  | .noToken => "found character that cannot start any token, while scanning for the next token"
  | .noContent => "did not find expected node content, while parsing a block node"
  | .unknownAnchor => "unknown anchor"
  | .unknownHandle => "found undefined tag handle, while parsing a node"
  | .otherVersion => "found incompatible YAML document"
  | .ungrammatical => "malformed document"

/-- The wording of a fault. -/
def Fault.message : Fault → String
  | .control offset =>
    "control characters are not allowed" ++ if offset = 0 then "" else
      " at position " ++ toString offset
  | .problem p _ _ => p.message

/-- Whether the report of a fault gives its line; it does not at the first character of the text. -/
def Fault.isLocated : Fault → Bool
  | .control _ => false
  | .problem p line column => p = .ungrammatical || line ≠ 0 || column ≠ 0

/-! ## Values -/

/-- How a scalar is written. -/
inductive Style where
  | plain
  | quoted
  deriving DecidableEq, Repr, Inhabited

/-- A tag: the text that its handle stands for, and the rest of it. -/
structure Tag where
  /-- The text that the handle stands for. -/
  handle : String
  /-- The rest of the tag. -/
  suffix : String
  deriving DecidableEq, Repr, Inhabited

/-- What the handle of two marks stands for. -/
def Tag.coreHandle : String := "tag:yaml.org,2002:"

/-- The whole of a tag. -/
def Tag.text (t : Tag) : String := t.handle ++ t.suffix

/-- A value of a document. -/
inductive Node where
  | scalar (style : Style) (text : String) (tag : Option Tag)
  | sequence (items : List Node)
  | mapping (entries : List (Node × Node))
  /-- The place from which on the text is not YAML. -/
  | broken (fault : Fault)
  deriving Inhabited

namespace Node

/-- The value where nothing is written. -/
def blank : Node := .scalar .plain "" none

/-- A value that is none: its tag is that of null, but no word for null is written. -/
def unknown : Node := .scalar .plain "" (some ⟨Tag.coreHandle, "null"⟩)

mutual

/-- The fault of the text inside a value. -/
def fault? : Node → Option Fault
  | .broken f => some f
  | .scalar .. => none
  | .sequence items => itemsFault? items
  | .mapping entries => entriesFault? entries

/-- `fault?` on the items of a list. -/
def itemsFault? : List Node → Option Fault
  | [] => none
  | n :: rest => n.fault? <|> itemsFault? rest

/-- `fault?` on the entries of a map. -/
def entriesFault? : List (Node × Node) → Option Fault
  | [] => none
  | (k, v) :: rest => k.fault? <|> v.fault? <|> entriesFault? rest

end

end Node

/-- A document of a text. -/
structure Document where
  /-- The value of the document. -/
  root : Node
  /-- Whether the value begins with the first character of the text. -/
  atOrigin : Bool
  /-- Whether the first key of the value, or the value itself if it is no map in block style,
  does. -/
  contentAtOrigin : Bool
  /-- The fault by which the text ends before the document does. -/
  fault : Option Fault
  deriving Inhabited

end RoundWorkflow.Yaml
