import RoundWorkflow.Specification
import RoundWorkflow.Symbol
import RoundWorkflow.Json.Reader
import RoundWorkflow.Yaml.Reader
import RoundWorkflow.Yaml.Writer

/-!
# Specification documents

A specification is exchanged as a JSON or a YAML document with six fields.  Sets are
lists of names, in which order and repetition do not count.  The edges are a map from
keys to rounds whose order counts, and in which a key may occur twice.

Both formats are read by one reader.  What it has to know of a format is collected in a
`Dialect`: what a value is (`View`), and what name it spells.  In JSON a name may also
be written as the key of a map whose value is null, and a record as the list of its
fields; in YAML a name may be a plain scalar or a tag, and nothing stands for an empty
list or map.

Of several faults the first in the text is reported.  A field that is not there shows
only at the end of the record.
-/

namespace RoundWorkflow

/-! ## Dialects -/

/-- What a value is. -/
inductive View (ν : Type) where
  | list (items : List ν)
  | map (entries : List (ν × ν))
  /-- Nothing, which may stand for an empty list or map. -/
  | blank
  /-- A value without parts. -/
  | scalar
  /-- The place in the text from which on nothing can be read. -/
  | broken (fault : ReadingFault)

/-- The name that a value spells. -/
inductive Spelling where
  /-- A name and nothing else. -/
  | name (text : String)
  /-- A name with something after it that does not belong there. -/
  | nameAndMore (text : String)
  /-- No name. -/
  | other
  deriving DecidableEq, Repr, Inhabited

/-- What the reader has to know of the documents of a format. -/
structure Dialect (ν : Type) where
  /-- What a value is. -/
  view : ν → View ν
  /-- The text of a value that is a key. -/
  text? : ν → Option String
  /-- The name that a value spells. -/
  spelling : ν → Spelling
  /-- How a value fails to be what is expected. -/
  mismatch : ν → String → Json.Mismatch
  /-- The fault in a value that is passed over. -/
  fault? : ν → Option ReadingFault
  /-- The record that is the list of its fields, from their names, if there may be one. -/
  record? : List String → List ν → Option (List (ν × ν))

/-- What a JSON value is. -/
def Json.view : Json → View Json
  | .array items => .list items
  | .object members => .map (members.map fun m => (.string m.1, m.2))
  | .cutShort members =>
    .map ((members.map fun m => (.string m.1, m.2)) ++ [(.unreadable, .unreadable)])
  | .unreadable => .broken .malformed
  | _ => .scalar

/-- JSON: names in quotes, or as the key of a map. -/
def Dialect.json : Dialect Json where
  view := Json.view
  text?
    | .string s => some s
    | _ => none
  spelling
    | .string s => .name s
    | .object [(s, .null)] => .name s
    | .object ((s, _) :: _) | .cutShort ((s, _) :: _) => .nameAndMore s
    | _ => .other
  mismatch j expected := .type j.found expected
  fault? _ := none
  record? names items := some ((names.map Json.string).zip items)

/-- What a plain scalar of YAML is found to be.  A whole number of more than 64 bits is told
apart. -/
def Yaml.Meaning.found : Yaml.Meaning → Json.Found
  | .null => .unit
  | .bool b => .bool b
  | .integer i => if -Nat.pow 2 63 ≤ i && i < UInt64.size then .integer i else .wideInteger i
  | .double d => .pointed d
  | .text s => .string s

/-- What a scalar of YAML with a tag is found to be; the tag may say what it has to be. -/
def Yaml.Tag.found (t : Yaml.Tag) (s : String) : Except String Json.Found :=
  let orElse (expected : String) : Option Json.Found → Except String Json.Found
    | some f => .ok f
    | none => .error expected
  if t.text = Yaml.Tag.coreHandle ++ "bool" then orElse "a boolean" ((Yaml.truth? s).map .bool)
  else if t.text = Yaml.Tag.coreHandle ++ "int" then
    orElse "an integer" ((Yaml.plainInteger? s.toList).map fun i => Yaml.Meaning.found (.integer i))
  else if t.text = Yaml.Tag.coreHandle ++ "float" then
    orElse "a float" ((Yaml.plainDouble? s.toList).map .pointed)
  else if t.text = Yaml.Tag.coreHandle ++ "null" then
    orElse "null" (if Yaml.isNullWord s then some .unit else none)
  else .ok (.string s)

/-- How a node of YAML fails to be what is expected. -/
def Yaml.Node.mismatch (node : Yaml.Node) (expected : String) : Json.Mismatch :=
  match node with
  | .sequence _ => .type .array expected
  | .mapping _ => .type .object expected
  | .scalar _ s (some t) =>
    match t.found s with
    | .ok found => .type found expected
    | .error wanted => .value (.string s) wanted
  | .scalar .plain s none => .type (Yaml.meaning s).found expected
  | .scalar .quoted s none => .type (.string s) expected
  | .broken _ => .type .unit expected

/-- The name that a scalar of YAML spells.  A tag with one mark is a name itself, and then nothing
may come after it. -/
def Yaml.Node.spelling : Yaml.Node → Spelling
  | .scalar style s (some t) =>
    match t.text.toList with
    | '!' :: rest =>
      let name := if rest.isEmpty then "!" else String.ofList rest
      if style = .plain && (s = "" || Yaml.isNullWord s) then .name name else .nameAndMore name
    | _ => .name s
  | .scalar _ s none => .name s
  | _ => .other

/-- YAML: every scalar spells a name. -/
def Dialect.yaml : Dialect Yaml.Node where
  view
    | .sequence items => .list items
    | .mapping entries => .map entries
    | .scalar .plain "" _ => .blank
    | .scalar .. => .scalar
    | .broken f => .broken (.notYaml f)
  text?
    | .scalar _ s _ => some s
    | _ => none
  spelling := Yaml.Node.spelling
  mismatch := Yaml.Node.mismatch
  fault? node := node.fault?.map .notYaml
  record? _ _ := none

namespace Specification

variable {ν : Type}

/-! ## Reading -/

/-- A value of another kind than the expected one. -/
def wrongKind (d : Dialect ν) (v : ν) (expected : String) : ReadingFault :=
  match d.view v with
  | .broken f => f
  | _ => .mismatch (d.mismatch v expected)

/-- Reads the name of a member of a closed enumeration. -/
def readMember (α : Type) [DecidableEq α] [Enumeration α] (d : Dialect ν) (v : ν) :
    Except ReadingFault α :=
  let named (s : String) : Except ReadingFault α :=
    match Enumeration.ofName? s with
    | some a => .ok a
    | none => .error (.mismatch (.unknownName s (Enumeration.names α)))
  match d.spelling v with
  | .name s => named s
  | .nameAndMore s => do
    let _ ← named s
    throw .malformed
  | .other => .error (wrongKind d v "string or map")

/-- Reads the names of members of a closed enumeration. -/
def readMembers (α : Type) [DecidableEq α] [Enumeration α] (d : Dialect ν) :
    List ν → Except ReadingFault (List α)
  | [] => .ok []
  | v :: rest => do
    let a ← readMember α d v
    let as ← readMembers α d rest
    return a :: as

/-- Reads a set of members of a closed enumeration. -/
def readSet (α : Type) [DecidableEq α] [Enumeration α] (d : Dialect ν) (v : ν) :
    Except ReadingFault (EnumSet α) :=
  match d.view v with
  | .list items => (readMembers α d items).map .ofList
  | .blank => .ok .empty
  | _ => .error (wrongKind d v "a sequence")

/-- The fault of a key that cannot be read. -/
def keyFault : Error → ReadingFault
  | .unknownRound text => .unknownRound text
  | .unknownEvent text => .unknownEvent text
  | .malformedKey text => .malformedKey text
  | _ => .malformed

/-- Reads the key of an edge. -/
def readKey (d : Dialect ν) (v : ν) : Except ReadingFault Key :=
  match d.text? v with
  | some text => (Key.parse text).mapError keyFault
  | none => .error (wrongKind d v "a string")

/-- Reads the entries of the map of edges. -/
def readEntries (d : Dialect ν) : List (ν × ν) → Except ReadingFault (List Edge)
  | [] => .ok []
  | (k, v) :: rest => do
    let key ← readKey d k
    let target ← readMember Round d v
    let edges ← readEntries d rest
    return ⟨key.round, key.event, target⟩ :: edges

/-- Reads the map of edges. -/
def readEdges (d : Dialect ν) (v : ν) : Except ReadingFault (List Edge) :=
  match d.view v with
  | .map entries => readEntries d entries
  | .blank => .ok []
  | _ => .error (wrongKind d v "a map of \"(Round, EVENT)\" keys to rounds")

/-- A specification some of whose fields have been read. -/
structure Draft where
  /-- The events that edges may have. -/
  alphabet : Option (EnumSet Event)
  /-- The round a replica enters unless it is configured otherwise. -/
  defaultStart : Option Round
  /-- The rounds that may have no exit. -/
  finals : Option (EnumSet Round)
  /-- The rounds a replica may start from. -/
  starts : Option (EnumSet Round)
  /-- The rounds of the graph. -/
  states : Option (EnumSet Round)
  /-- The edges. -/
  edges : Option (List Edge)

/-- The names of the fields, in the order of a record that is written as a list. -/
def fieldNames : List String :=
  ["alphabet_in", "default_start_state", "final_states", "start_states", "states",
    "transition_func"]

/-- The value of a field that must not have been read before. -/
def readOnce (name : String) (before : Option α) (read : Except ReadingFault α) :
    Except ReadingFault (Option α) :=
  match before with
  | some _ => .error (.duplicateField name)
  | none => read.map some

/-- The draft with one more field; a field that is not known is passed over. -/
def Draft.readField (d : Dialect ν) (draft : Draft) (name : String) (v : ν) :
    Except ReadingFault Draft :=
  match name with
  | "alphabet_in" => do
    return { draft with alphabet := ← readOnce name draft.alphabet (readSet Event d v) }
  | "default_start_state" => do
    return { draft with defaultStart := ← readOnce name draft.defaultStart (readMember Round d v) }
  | "final_states" => do
    return { draft with finals := ← readOnce name draft.finals (readSet Round d v) }
  | "start_states" => do
    return { draft with starts := ← readOnce name draft.starts (readSet Round d v) }
  | "states" => do
    return { draft with states := ← readOnce name draft.states (readSet Round d v) }
  | "transition_func" => do
    return { draft with edges := ← readOnce name draft.edges (readEdges d v) }
  | _ =>
    match d.fault? v with
    | some f => .error f
    | none => .ok draft

/-- The draft with the fields of the entries of a map. -/
def Draft.readFields (d : Dialect ν) (draft : Draft) : List (ν × ν) → Except ReadingFault Draft
  | [] => .ok draft
  | (k, v) :: rest =>
    match d.text? k with
    | some name => do
      let draft ← draft.readField d name v
      draft.readFields d rest
    | none => .error (wrongKind d k "field identifier")

/-- A field that has to be there. -/
def requireField (name : String) (value : Option α) : Except ReadingFault α :=
  match value with
  | some a => .ok a
  | none => .error (.missingField name)

/-- The specification of a draft; only the finals have a default. -/
def Draft.finish (draft : Draft) : Except ReadingFault Specification := do
  let alphabet ← requireField "alphabet_in" draft.alphabet
  let defaultStart ← requireField "default_start_state" draft.defaultStart
  let starts ← requireField "start_states" draft.starts
  let states ← requireField "states" draft.states
  let edges ← requireField "transition_func" draft.edges
  return ⟨alphabet, defaultStart, draft.finals.getD .empty, starts, states, edges⟩

/-- The draft in which nothing has been read. -/
def Draft.empty : Draft := ⟨none, none, none, none, none, none⟩

/-- What a document of another kind is told it should be. -/
def recordName : String := "struct FsmSpecification"

/-- The entries of the record that a value is. -/
def recordEntries (d : Dialect ν) (v : ν) : Except ReadingFault (List (ν × ν)) :=
  match d.view v with
  | .map entries => .ok entries
  | .blank => .ok []
  | .list items =>
    match d.record? fieldNames items with
    | some entries => .ok entries
    | none => .error (wrongKind d v recordName)
  | _ => .error (wrongKind d v recordName)

/-- A list that stands for a record has as many items as the record has fields. -/
def checkLength (d : Dialect ν) (v : ν) : Except ReadingFault Unit :=
  match d.view v with
  | .list items => if items.length = fieldNames.length then .ok () else .error .malformed
  | _ => .ok ()

/-- Reads the specification of a value. -/
def readValue (d : Dialect ν) (v : ν) : Except ReadingFault Specification := do
  let entries ← recordEntries d v
  let draft ← Draft.empty.readFields d entries
  checkLength d v
  draft.finish

/-- The error of a document that cannot be read. -/
def unreadable (fault : ReadingFault) (located : Bool) : Error :=
  .invalidSpecification (.unreadable ⟨fault, located⟩)

/-- Reads a JSON document. -/
def readJson (text : String) : Except Error Specification :=
  match Json.ofText? text with
  | none => .error (unreadable .malformed true)
  | some j => (readValue .json j).mapError fun fault => unreadable fault true

/-- Whether the first key of a map cannot be the name of a field. -/
def beginsWithCollection : Yaml.Node → Bool
  | .mapping ((k, _) :: _) => (Dialect.yaml.text? k).isNone
  | _ => false

/-- Whether a fault is reported without its place: a fault of the whole record where the record
begins the text, and a fault of the text itself at its beginning. -/
def isPlaceless (document : Yaml.Document) : ReadingFault → Bool
  | .notYaml f => !f.isLocated
  | .missingField _ | .duplicateField _ => document.atOrigin
  | _ =>
    (document.atOrigin && !(recordEntries .yaml document.root).isOk) ||
      (document.contentAtOrigin && beginsWithCollection document.root)

/-- Reads a YAML document. -/
def readYaml (text : String) : Except Error Specification :=
  match Yaml.Edition.early.documents text with
  | [] => .error (unreadable .malformed true)
  | document :: others => do
    let fail (fault : ReadingFault) : Error := unreadable fault !isPlaceless document fault
    let s ← (readValue .yaml document.root).mapError fail
    match document.fault with
    | some f => throw (fail (.notYaml f))
    | none => if others.isEmpty then return s else throw (unreadable .severalDocuments false)

/-! ## Writing -/

/-- The names of the members of a set. -/
def namesJson {α : Type} [DecidableEq α] [Enumeration α] (s : EnumSet α) : Json :=
  .ofList (fun a => .string (Enumeration.name a)) s.toList

/-- The specification as a value; the edges are the members of an object, in order. -/
def toJson (s : Specification) : Json :=
  .object
    [("alphabet_in", namesJson s.alphabet),
      ("default_start_state", .string s.defaultStart.name),
      ("final_states", namesJson s.finals),
      ("start_states", namesJson s.starts),
      ("states", namesJson s.states),
      ("transition_func", .object (s.edges.map fun e => (e.key.text, .string e.target.name)))]

/-- The JSON document of a specification. -/
def jsonText (s : Specification) : String := s.toJson.pretty

/-- The YAML document of a specification. -/
def yamlText (s : Specification) : String := Yaml.text s.toJson

end Specification

end RoundWorkflow
