import RoundWorkflow.Yaml

/-!
# The tokens of a YAML text

A text is a list of tokens: scalars, marks, and the places where a collection in block
style begins and ends.  Only the columns show those places, and the reader of tokens
finds them.
-/

namespace RoundWorkflow.Yaml

/-- What a token is. -/
inductive Token.Kind where
  /-- A list in block style begins. -/
  | blockList
  /-- A map in block style begins. -/
  | blockMap
  /-- A collection in block style ends. -/
  | blockEnd
  /-- The mark `[`. -/
  | openList
  /-- The mark `]`. -/
  | closeList
  /-- The mark `{`. -/
  | openMap
  /-- The mark `}`. -/
  | closeMap
  /-- The dash before an item. -/
  | dash
  | comma
  /-- The beginning of a key, with a question mark or without one. -/
  | key
  /-- The colon before a value. -/
  | value
  | scalar (style : Style) (text : String)
  | anchor (name : String)
  | alias (name : String)
  /-- A tag, with its handle as it is written. -/
  | tag (tag : Tag)
  /-- The version of a document. -/
  | version (major minor : Nat)
  /-- What a handle stands for in a document. -/
  | handle (name expansion : String)
  /-- The mark that begins a document. -/
  | start
  /-- The mark that ends a document. -/
  | finish
  /-- The end of the text. -/
  | theEnd
  deriving DecidableEq, Repr, Inhabited

/-- A token with its place. -/
structure Token where
  /-- What the token is. -/
  kind : Token.Kind
  /-- The line, counted from zero. -/
  line : Nat
  /-- The column, counted from zero. -/
  column : Nat
  deriving DecidableEq, Repr, Inhabited

/-- Whether a token is a directive. -/
def Token.Kind.isDirective : Token.Kind → Bool
  | .version .. | .handle .. => true
  | _ => false

/-- Whether a token stands between documents. -/
def Token.Kind.isBetween (k : Token.Kind) : Bool :=
  k.isDirective || k = .start || k = .finish || k = .theEnd

end RoundWorkflow.Yaml
