import RoundWorkflow.Yaml.Scan.Tokens

/-!
# Reading YAML

The tokens of a text are put together by a machine with a stack of the collections that
are open, innermost first (`Build`).  A collection knows what may come next (`Stage`).
Before a token is taken the machine is *settled*: where a value is due and the token
begins none, the value is blank, and a list in block style that stands in the column of
its key ends before a token that is no dash.  Then the token is taken, and the step is
over.

A node may have an anchor, and an alias stands for the node that its anchor names.  Inside
of that very node the alias stands for an empty collection, or in the late edition for no
value at all.

The machine stops at a fault.  What is read of the document by then ends with the fault.
-/

namespace RoundWorkflow.Yaml

/-- What may come next in a collection. -/
inductive Stage where
  /-- An element, or the end. -/
  | element
  /-- The node of a key. -/
  | key
  /-- The colon after a key. -/
  | colon (key : Node)
  /-- The value of a key. -/
  | value (key : Node)
  /-- A comma, or the end. -/
  | after
  deriving Inhabited

/-- The shape of a collection. -/
inductive Shape where
  /-- A list in block style. -/
  | blockList
  /-- A list in block style in the column of the key it is the value of. -/
  | plainList
  | blockMap
  | flowList
  | flowMap
  /-- A map of one entry in a list with brackets. -/
  | pair
  deriving DecidableEq, Repr, Inhabited

/-- An open collection with what it holds so far, newest first.  The entries of a list have blank
keys. -/
structure Frame where
  /-- The shape. -/
  shape : Shape
  /-- The entries. -/
  entries : List (Node × Node)
  /-- What may come next. -/
  stage : Stage
  /-- The number of the anchor of the collection. -/
  anchor : Option Nat
  deriving Inhabited

namespace Shape

/-- Whether the shape is that of a list. -/
def isList : Shape → Bool
  | .blockList | .plainList | .flowList => true
  | _ => false

/-- Whether the shape is in block style. -/
def isBlock : Shape → Bool
  | .blockList | .plainList | .blockMap => true
  | _ => false

/-- The collection of this shape with entries, which are given newest first. -/
def node (shape : Shape) (entries : List (Node × Node)) : Node :=
  if shape.isList then .sequence (entries.reverse.map Prod.snd) else .mapping entries.reverse

/-- What comes after an element that is complete. -/
def afterElement : Shape → Stage
  | .flowList | .flowMap => .after
  | _ => .element

end Shape

namespace Frame

/-- The collection as it stands. -/
def node (f : Frame) : Node := f.shape.node f.entries

/-- The collection broken off by a fault, or by what was read of the next element. -/
def brokenOff (f : Frame) (rest : Node) : Node :=
  let entry := match f.stage with
    | .colon key | .value key => (key, rest)
    | _ => (rest, rest)
  f.shape.node (entry :: f.entries)

/-- Whether a node is due, or may come. -/
def awaitsNode (f : Frame) : Bool :=
  match f.stage, f.shape with
  | .key, _ | .value _, _ => true
  | .element, .flowList | .element, .flowMap => true
  | _, _ => false

/-- With a node where one is due. -/
def attach (v : Node) (f : Frame) : Frame :=
  match f.stage with
  | .colon key | .value key =>
    { f with entries := (key, v) :: f.entries, stage := f.shape.afterElement }
  | .key =>
    if f.shape.isList then
      { f with entries := (.blank, v) :: f.entries, stage := f.shape.afterElement }
    else { f with stage := .colon v }
  | _ =>
    if f.shape.isList then { f with entries := (.blank, v) :: f.entries, stage := .after }
    else { f with entries := (v, .blank) :: f.entries, stage := .after }

/-- Whether the collection ends with the element that it has, without a mark. -/
def isOver (f : Frame) : Bool := f.shape = .pair && !f.entries.isEmpty

/-- Whether nothing is written before a token where a node is due. -/
def isBlankBefore (f : Frame) (t : Token.Kind) : Bool :=
  match f.shape, f.stage with
  | .blockList, .key => t = .dash || t = .blockEnd
  | .plainList, .key => t = .dash || t = .key || t = .value || t = .blockEnd
  | .blockMap, .key | .blockMap, .value _ => t = .key || t = .value || t = .blockEnd
  | .flowMap, .key => t = .value || t = .comma || t = .closeMap
  | .flowMap, .value _ => t = .comma || t = .closeMap
  | .pair, .value _ => t = .comma || t = .closeList
  | _, .colon _ => t ≠ .value
  | _, _ => false

end Frame

/-- What stands before a node. -/
structure Properties where
  /-- The tag. -/
  tag : Option Tag
  /-- The number of the anchor. -/
  anchor : Option Nat
  deriving Inhabited

/-- Where the reading of a document stands. -/
inductive Phase where
  /-- Before a document, which may begin without a mark if it is `bare`. -/
  | between (bare : Bool)
  /-- After a directive. -/
  | declared
  /-- Before the value, which may be blank after a mark. -/
  | root (marked : Bool)
  /-- Inside the value; the innermost collection is given first. -/
  | inside (inner : Frame) (outer : List Frame)
  /-- After the value. -/
  | complete (root : Node)
  deriving Inhabited

/-- The state of the machine. -/
structure Build where
  /-- Where the reading stands. -/
  phase : Phase
  /-- What stands before the node that is due. -/
  properties : Option Properties
  /-- The anchors, newest first, with their numbers. -/
  anchors : List (String × Nat)
  /-- The nodes that anchors name, by their numbers. -/
  named : List (Nat × Node)
  /-- What the handles of tags stand for. -/
  handles : List (String × String)
  /-- Whether the version of the document is given. -/
  hasVersion : Bool
  /-- The place of the first token of the value. -/
  origin : Option (Nat × Nat)
  /-- The place of the first token that is no mark of a map in block style. -/
  contentOrigin : Option (Nat × Nat)
  /-- The documents before this one, newest first. -/
  documents : List Document
  deriving Inhabited

namespace Build

/-- Between documents. -/
def fresh (bare : Bool) (documents : List Document) : Build :=
  ⟨.between bare, none, [], [], [], false, none, none, documents⟩

/-- The document with a value. -/
def document (b : Build) (root : Node) (fault : Option Fault) : Document :=
  ⟨root, b.origin = some (0, 0), b.contentOrigin = some (0, 0), fault⟩

/-! ## Nodes -/

/-- With a node noted that an anchor names. -/
def note (b : Build) (anchor : Option Nat) (v : Node) : Build :=
  match anchor with
  | some n => { b with named := (n, v) :: b.named }
  | none => b

/-- With a node where one is due. -/
def attach (b : Build) (anchor : Option Nat) (v : Node) : Build :=
  let b := b.note anchor v
  match b.phase with
  | .inside f (g :: outer) =>
    let f := f.attach v
    if f.isOver then { b with phase := .inside (g.attach f.node) outer }
    else { b with phase := .inside f (g :: outer) }
  | .inside f [] => { b with phase := .inside (f.attach v) [] }
  | _ => { b with phase := .complete v }

/-- With the innermost collection closed. -/
def close (b : Build) (f : Frame) (outer : List Frame) : Build :=
  match outer with
  | [] => { b.note f.anchor f.node with phase := .complete f.node }
  | g :: outer => attach { b with phase := .inside g outer } f.anchor f.node

/-- With one more open collection. -/
def openFrame (b : Build) (shape : Shape) (stage : Stage) : Build :=
  let anchor := b.properties.bind Properties.anchor
  let f : Frame := ⟨shape, [], stage, anchor⟩
  let outer := match b.phase with
    | .inside g outer => g :: outer
    | _ => []
  { b.note anchor (shape.node []) with phase := .inside f outer, properties := none }

/-- With a scalar that has the properties which stand before it. -/
def scalar (b : Build) (style : Style) (text : String) : Build :=
  let ps := b.properties.getD ⟨none, none⟩
  attach { b with properties := none } ps.anchor (.scalar style text ps.tag)

/-! ## Settling -/

/-- Whether a node in block style may come next. -/
def mayBeBlock (b : Build) : Bool :=
  match b.phase with
  | .inside f _ => f.shape.isBlock
  | _ => true

/-- Whether a list in the column of its key may come next. -/
def mayBePlainList (b : Build) : Bool :=
  match b.phase with
  | .inside f _ => f.shape = .blockMap
  | _ => false

/-- Whether a token goes on with a node of which there are properties already. -/
def continuesNode (b : Build) (ps : Properties) : Token.Kind → Bool
  | .scalar .. | .openList | .openMap => true
  | .blockList | .blockMap => b.mayBeBlock
  | .dash => b.mayBePlainList
  | .anchor _ => ps.anchor.isNone
  | .tag _ => ps.tag.isNone
  | _ => false

/-- With a blank node where one is due and a token begins none. -/
def fill (b : Build) (t : Token.Kind) : Build :=
  match b.phase, b.properties with
  | _, some ps => if b.continuesNode ps t then b else b.scalar .plain ""
  | .root true, none => if t.isBetween then b.scalar .plain "" else b
  | .inside f _, none => if f.isBlankBefore t then b.scalar .plain "" else b
  | _, none => b

/-- With a key that is blank before a colon, where a key may begin; the late edition admits it. -/
def fillKey (e : Edition) (b : Build) (t : Token.Kind) : Build :=
  match b.phase with
  | .inside f outer =>
    if e = .late && t = .value && f.stage matches .element &&
      (f.shape = .blockMap || f.shape = .flowMap) then
      { b with phase := .inside { f with stage := .colon .blank } outer }
    else b
  | _ => b

/-- With the lists ended that stand in the column of their key. -/
def leavePlainLists (b : Build) (t : Token.Kind) : Build :=
  match b.phase with
  | .inside f outer =>
    if f.shape = .plainList && f.stage matches .element && t ≠ .dash then b.close f outer else b
  | _ => b

/-- Settled for a token.  A blank node may make another one due: first the value of a key with a
mark of its own, then its colon, and then the list around the map. -/
def settle (e : Edition) (b : Build) (t : Token.Kind) : Build :=
  let b := (b.fill t).fill t
  let b := ((b.leavePlainLists t).fill t).fill t
  b.fillKey e t

/-! ## Documents -/

/-- What a handle stands for unless it is declared otherwise. -/
def standardHandle? : String → Option String
  | "!!" => some Tag.coreHandle
  | "" => some ""
  | "!" => some "!"
  | _ => none

/-- A tag with what its handle stands for. -/
def resolve? (e : Edition) (b : Build) (t : Tag) : Option Tag :=
  let declared := if e = .early && t.handle = "" then none else b.handles.lookup t.handle
  (declared <|> standardHandle? t.handle).map fun h => ⟨h, t.suffix⟩

/-- With a directive. -/
def declare (e : Edition) (b : Build) (t : Token) : Except Fault Build :=
  match t.kind with
  | .version major minor =>
    if e = .early && !(major = 1 && (minor = 1 || minor = 2)) then
      .error (.problem .otherVersion t.line t.column)
    else if b.hasVersion then .error (.problem .ungrammatical t.line t.column)
    else
      .ok { b with phase := .declared, hasVersion := true, handles := if e = .early then
        b.handles else [] }
  | .handle name expansion =>
    let handles := if e = .early then b.handles else []
    if (handles.lookup name).isSome then .error (.problem .ungrammatical t.line t.column)
    else .ok { b with phase := .declared, handles := (name, expansion) :: handles }
  | _ => .error (.problem .ungrammatical t.line t.column)

/-- With a token taken between documents.  A text of the early edition without a document is a blank
one. -/
def takeBetween (e : Edition) (b : Build) (bare : Bool) (t : Token) : Except Fault Build :=
  let isFirst := e = .early && bare
  match t.kind with
  | .version .. | .handle .. => b.declare e t
  | .start => .ok { b with phase := .root true }
  | .theEnd =>
    let atOrigin := t.line = 0 && t.column = 0
    .ok (if isFirst then { b with documents := [⟨.blank, atOrigin, atOrigin, none⟩] } else b)
  | .finish => if isFirst then .error (.problem .noContent t.line t.column) else .ok b
  | _ => .error (.problem .ungrammatical t.line t.column)

/-- With the document ended that has a value, and a token taken after it.  What is wrong from here
on is wrong with the next document. -/
def endDocument (e : Edition) (b : Build) (root : Node) (t : Token) : Build :=
  let documents := b.document root none :: b.documents
  if t.kind = .finish then fresh (e = .late) documents
  else
    let begun :=
      if e = .late && t.kind.isDirective then .error (.problem .ungrammatical t.line t.column)
      else (fresh false documents).takeBetween e false t
    match begun with
    | .ok b => b
    | .error f => fresh false (⟨.broken f, false, false, some f⟩ :: documents)

/-! ## Steps -/

/-- Whether an open collection has an anchor, by its number. -/
def isOpen (b : Build) (anchor : Nat) : Bool :=
  match b.phase with
  | .inside inner outer => (inner :: outer).any fun f => f.anchor = some anchor
  | _ => false

/-- With a token taken that begins a node. -/
def takeNode (e : Edition) (b : Build) (t : Token) : Except Fault Build :=
  let ps := b.properties.getD ⟨none, none⟩
  let fault (p : Problem) : Except Fault Build := .error (.problem p t.line t.column)
  match t.kind with
  | .scalar style text => .ok (b.scalar style text)
  | .alias name =>
    match b.anchors.lookup name with
    | some n =>
      let v := if e = .late && b.isOpen n then .unknown else (b.named.lookup n).getD .blank
      .ok (b.attach none v)
    | none => fault .unknownAnchor
  | .anchor name =>
    let n := b.anchors.length
    .ok
      { b with
        anchors := (name, n) :: b.anchors
        properties := some { ps with anchor := some n } }
  | .tag tag =>
    match b.resolve? e tag with
    | some tag => .ok { b with properties := some { ps with tag := some tag } }
    | none => fault .unknownHandle
  | .openList => .ok (b.openFrame .flowList .element)
  | .openMap => .ok (b.openFrame .flowMap .element)
  | .blockList => if b.mayBeBlock then .ok (b.openFrame .blockList .element) else fault .noContent
  | .blockMap => if b.mayBeBlock then .ok (b.openFrame .blockMap .element) else fault .noContent
  | .dash => if b.mayBePlainList then .ok (b.openFrame .plainList .key) else fault .noContent
  | _ => fault .noContent

/-- With a token taken in a collection. -/
def takeMark (e : Edition) (b : Build) (f : Frame) (outer : List Frame) (t : Token) :
    Except Fault Build :=
  let next (stage : Stage) : Except Fault Build :=
    .ok { b with phase := .inside { f with stage := stage } outer }
  let fault : Except Fault Build := .error (.problem .ungrammatical t.line t.column)
  match f.stage, f.shape, t.kind with
  | .element, .blockList, .dash | .element, .plainList, .dash => next .key
  | .element, .blockMap, .key => next .key
  | .element, .blockList, .blockEnd | .element, .blockMap, .blockEnd => .ok (b.close f outer)
  | .colon key, _, .value => next (.value key)
  | .element, .flowList, .closeList | .after, .flowList, .closeList => .ok (b.close f outer)
  | .element, .flowMap, .closeMap | .after, .flowMap, .closeMap => .ok (b.close f outer)
  | .after, .flowList, .comma | .after, .flowMap, .comma => next .element
  | .element, .flowMap, .key => next .key
  | .element, .flowList,
      .key => .ok { b with phase := .inside ⟨.pair, [], .key, none⟩ (f :: outer) }
  | .key, .pair, .value | .key, .pair, .comma | .key, .pair, .closeList => next (.colon .blank)
  | _, _, _ => if f.awaitsNode then b.takeNode e t else fault

/-- Whether a token stands for a map in block style and not for a part of it. -/
def isImplied : Token.Kind → Bool
  | .blockMap | .blockList | .key => true
  | _ => false

/-- With the places noted at which the value begins. -/
def noteOrigin (b : Build) (t : Token) : Build :=
  let here := some (t.line, t.column)
  { b with
    origin := b.origin <|> here
    contentOrigin := b.contentOrigin <|> if isImplied t.kind then none else here }

/-- With a token taken by the machine that is settled for it. -/
def take (e : Edition) (b : Build) (t : Token) : Except Fault Build :=
  match b.phase with
  | .between bare =>
    if bare && !t.kind.isBetween then takeNode e ({ b with phase := .root false }.noteOrigin t) t
    else b.takeBetween e bare t
  | .declared =>
    if t.kind.isDirective then b.declare e t
    else if t.kind = .start then .ok { b with phase := .root true }
    else .error (.problem .ungrammatical t.line t.column)
  | .root _ => (b.noteOrigin t).takeNode e t
  | .inside f outer =>
    let b := b.noteOrigin t
    if b.properties.isSome then b.takeNode e t else b.takeMark e f outer t
  | .complete root => .ok (b.endDocument e root t)

/-- One token. -/
def step (e : Edition) (b : Build) (t : Token) : Except Fault Build := (b.settle e t.kind).take e t

/-- The value read so far, broken off by a fault. -/
def brokenRoot (b : Build) (f : Fault) : Node :=
  match b.phase with
  | .inside inner outer => outer.foldl (fun n g => g.brokenOff n) (inner.brokenOff (.broken f))
  | .complete root => root
  | _ => .broken f

/-- The documents with the one that a fault breaks off. -/
def breakOff (b : Build) (f : Fault) : List Document :=
  (b.document (b.brokenRoot f) (some f) :: b.documents).reverse

/-- The documents of a list of tokens, of which a fault may be the end. -/
def run (e : Edition) (ending : Option Fault) (b : Build) : List Token → List Document
  | [] =>
    match ending with
    | some f => b.breakOff f
    | none => b.documents.reverse
  | t :: ts =>
    let b' := b.settle e t.kind
    match b'.take e t with
    | .ok b'' => run e ending b'' ts
    | .error f => b'.breakOff f

end Build

/-- The documents of a text. -/
def Edition.documents (e : Edition) (s : String) : List Document :=
  let scanned := e.tokens s.toList
  Build.run e scanned.fault (.fresh true []) scanned.tokens

end RoundWorkflow.Yaml
