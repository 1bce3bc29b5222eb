import RoundWorkflow.Yaml.Lines
import RoundWorkflow.Yaml.Token

/-!
# Keys and columns

A scan goes over a text once and collects its tokens.  Two things show only later than
where they stand.  A scalar, or a collection in brackets, turns out to be a key by the
colon after it; until then it is a *candidate*, and the token that marks a key is put in
before it when the colon comes (`insert`).  And a collection in block style ends where a
token stands further to the left than it began (`unroll`).

A candidate is *required* when it begins in the column of the map around it, where
nothing but a key can stand.  A candidate outside of brackets is given up at the end of
its line or after 1024 units, and in the early edition inside of brackets too.

In the late edition what stands inside of a collection in block style has to stand
further to the right than the collection does, even in brackets.  So an indentation may
be one that no token began (`Indentation.isBlock`).
-/

namespace RoundWorkflow.Yaml

/-- What may turn out to be a key. -/
structure Candidate where
  /-- The number of tokens before it. -/
  tokens : Nat
  /-- Whether nothing but a key can stand there. -/
  isRequired : Bool
  /-- Where it begins. -/
  position : Position
  deriving Repr, Inhabited

/-- An indentation inside another one. -/
structure Indentation where
  /-- The column of the other one; there is none in column -1. -/
  outer : Int
  /-- Whether a token began it. -/
  isBlock : Bool
  deriving Repr, Inhabited

/-- The state of a scan. -/
structure Scan where
  /-- What is still to be read. -/
  cursor : Cursor
  /-- The tokens so far, newest first. -/
  tokens : List Token
  /-- The number of tokens so far. -/
  count : Nat
  /-- Whether a key may begin here. -/
  keyAllowed : Bool
  /-- The candidates, innermost first: one for the block style, and one for each open bracket. -/
  candidates : List (Option Candidate)
  /-- The column of the innermost collection in block style. -/
  indent : Int
  /-- The indentations, innermost first. -/
  indents : List Indentation
  /-- Whether only spaces stand before this place on its line. -/
  atLineStart : Bool
  /-- The place at which a colon needs no space after it. -/
  adjacent : Option Nat
  /-- Whether the keys that come are in a map with braces. -/
  inBraces : Bool
  /-- Whether a map without braces stands in a list with brackets. -/
  hasBareMap : Bool
  deriving Inhabited

namespace Scan

/-- Before the first token of a text. -/
def initial (text : List Char) : Scan where
  cursor := ⟨.start, text⟩
  tokens := []
  count := 0
  keyAllowed := true
  candidates := [none]
  indent := -1
  indents := []
  atLineStart := true
  adjacent := none
  inBraces := false
  hasBareMap := false

/-- Whether brackets are open. -/
def inFlow (s : Scan) : Bool := 1 < s.candidates.length

/-- A deviation from the grammar at the place that the scan has reached. -/
def fault (s : Scan) : Fault := s.cursor.position.fault

/-! ## Tokens -/

/-- With one more token. -/
def push (s : Scan) (kind : Token.Kind) (p : Position) : Scan :=
  { s with tokens := ⟨kind, p.line, p.column⟩ :: s.tokens, count := s.count + 1 }

/-- With a token after the first ones, so many. -/
def insert (s : Scan) (before : Nat) (kind : Token.Kind) (p : Position) : Scan :=
  let later := s.count - before
  { s with
    tokens := s.tokens.take later ++ ⟨kind, p.line, p.column⟩ :: s.tokens.drop later
    count := s.count + 1 }

/-! ## Indentations -/

/-- With the collections ended that begin further to the right than a column. -/
def unrollTo (column : Int) (p : Position) (s : Scan) : List Indentation → Scan
  | [] => s
  | i :: rest =>
    if s.indent ≤ column then s
    else
      let s := { s with indent := i.outer, indents := rest }
      unrollTo column p (if i.isBlock then s.push .blockEnd p else s) rest

/-- Outside of brackets, with the collections ended that begin further to the right than a
column. -/
def unroll (s : Scan) (column : Int) : Scan :=
  if s.inFlow then s else s.unrollTo column s.cursor.position s.indents

/-- Without the innermost indentations that no token began. -/
def dropBare (s : Scan) : List Indentation → Scan
  | [] => s
  | i :: rest =>
    if i.isBlock then s else dropBare { s with indent := i.outer, indents := rest } rest

/-- With a collection that begins in a column, unless one does already.  Its token comes after the
first ones, so many. -/
def roll (s : Scan) (column before : Nat) (kind : Token.Kind) (p : Position) : Scan :=
  if s.inFlow then s
  else
    let s : Scan := match s.indents with
      | i :: rest =>
        if !i.isBlock && s.indent ≤ column then { s with indent := i.outer, indents := rest } else s
      | [] => s
    if s.indent < column then
      insert { s with indent := column, indents := ⟨s.indent, true⟩ :: s.indents } before kind p
    else s

/-- With an indentation by one column that no token begins, inside of one that a token began. -/
def rollBare (s : Scan) : Scan :=
  match s.indents with
  | i :: _ =>
    if !s.inFlow && i.isBlock then
      { s with indent := s.indent + 1, indents := ⟨s.indent, false⟩ :: s.indents }
    else s
  | [] => s

/-! ## Candidates -/

/-- The greatest length of a key. -/
def maxKeyLength : Nat := 1024

/-- Without the innermost candidate; it must not be a required one. -/
def forget (s : Scan) : Except Fault Scan :=
  match s.candidates with
  | some c :: rest =>
    if c.isRequired then .error s.fault else .ok { s with candidates := none :: rest }
  | _ => .ok s

/-- With a candidate that begins here, if a key may begin here. -/
def nominate (e : Edition) (s : Scan) : Except Fault Scan :=
  if s.keyAllowed then do
    let isBlock := match s.indents with
      | i :: _ => i.isBlock
      | [] => true
    let isRequired := !s.inFlow && s.indent = s.cursor.column && isBlock
    let s ← if e = .early then s.forget else pure s
    return { s with candidates := some ⟨s.count, isRequired, s.cursor.position⟩ ::
      s.candidates.tail }
  else .ok s

/-- Whether a candidate can no longer be a key at a place. -/
def isStale (e : Edition) (inFlow : Bool) (p : Position) (c : Candidate) : Bool :=
  (e = .early || !inFlow) && (c.position.line < p.line || c.position.index + maxKeyLength < p.index)

/-- The candidates that can still be keys at a place, and whether a required one is given up. -/
def freshCandidates (e : Edition) (inFlow : Bool) (p : Position) :
    List (Option Candidate) → List (Option Candidate) × Bool
  | [] => ([], false)
  | none :: rest =>
    let (fresh, missed) := freshCandidates e inFlow p rest
    (none :: fresh, missed)
  | some c :: rest =>
    let (fresh, missed) := freshCandidates e inFlow p rest
    if isStale e inFlow p c then (none :: fresh, c.isRequired || missed) else
      (some c :: fresh, missed)

/-- Without the candidates that can no longer be keys; a required one must not be among them. -/
def giveUpStale (e : Edition) (s : Scan) : Except Fault Scan :=
  let (fresh, missed) := freshCandidates e s.inFlow s.cursor.position s.candidates
  if missed then .error s.fault else .ok { s with candidates := fresh }

/-- The tokens, newest first, that are certain whatever follows: those before the first
candidate. -/
def certain (s : Scan) : List Token :=
  let before := s.candidates.foldl (fun n c => (c.map fun c => min n c.tokens).getD n) s.count
  s.tokens.drop (s.count - before)

end Scan

end RoundWorkflow.Yaml
