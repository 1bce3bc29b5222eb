import RoundWorkflow.Dict
import RoundWorkflow.Json
import RoundWorkflow.Text.LowerCase
import RoundWorkflow.Text.Number
import RoundWorkflow.Text.Scan

/-!
# Settings laid over settings

Settings form a tree.  A tree is laid over another one (`overlay`): a map adds to the map
under it, and anything else takes the place of what is under it.  Names are compared
without regard to case, so they are made small on the way.

A single setting is put at the end of a path (`setAt`), a list of steps to a member of a
map or to an element of a list.  What stands on the way and has no members, or no
elements, makes room for something that has.  A path is written as a word and further
steps, a dot before the name of a member and brackets around the number of an element
(`Step.path`).
-/

namespace RoundWorkflow.Layers

/-! ## Overlaying -/

/-- The members of a map; anything else has none. -/
def membersOf : Json → List (String × Json)
  | .object members => members
  | _ => []

mutual

/-- A setting laid over another one. -/
def overlay (base : Json) : Json → Json
  | .object members => overlayMembers base members
  | j => j

/-- The members of a map laid over a setting, one after the other. -/
def overlayMembers (base : Json) : List (String × Json) → Json
  | [] => base
  | (name, j) :: rest =>
    let key := Text.lowerCase name
    let under := (membersOf base).find? fun m => m.1 = key
    let value := overlay ((under.map Prod.snd).getD (.object [])) j
    overlayMembers (.object ((Dict.ofList (membersOf base)).insert key value).entries) rest

end

/-! ## Paths -/

/-- A step on the path to a setting. -/
inductive Step where
  /-- To the member of a map. -/
  | member (name : String)
  /-- To the element of a list, counted from zero, or from the end if it is negative. -/
  | element (index : Int)
  deriving DecidableEq, Repr, Inhabited

namespace Step

/-- Whether a character may stand in the name of a member in a path. -/
def isNameChar (c : Char) : Bool := c.isAlphanum || c = ' ' || c = '_' || c = '-'

/-- Takes the name of a member. -/
def scanName : Text.Scan String := do
  return String.ofList (← Text.Scan.someWhere isNameChar)

/-- Whether a character may stand beside the number of an element. -/
def isMargin (c : Char) : Bool := c = ' ' || c = '\t'

/-- Takes the number of an element, which fits 64 bits. -/
def scanIndex : Text.Scan Int := do
  let _ ← Text.Scan.spanWhere isMargin
  let sign ← Text.Scan.optional (Text.Scan.char '-')
  let digits ← Text.Scan.someWhere Char.isDigit
  let _ ← Text.Scan.spanWhere isMargin
  let n : Int := Text.digitsValue 0 digits
  let index := if sign.isSome then -n else n
  if Text.isInt64 index then return index else failure

/-- Takes a step that is not the first. -/
def scanNext : Text.Scan Step :=
  (do
    let _ ← Text.Scan.char '.'
    return .member (← scanName)) <|>
  (do
    let _ ← Text.Scan.char '['
    let index ← scanIndex
    let _ ← Text.Scan.char ']'
    return .element index)

/-- Takes a path. -/
def scanPath : Text.Scan (List Step) := do
  let first ← scanName
  return .member first :: (← Text.Scan.many scanNext)

/-- The path that a name is; a name that is none leads to a member. -/
def path (name : String) : List Step := (scanPath.whole? name).getD [.member name]

end Step

/-- The elements of a list; anything else has none. -/
def elementsOf : Json → List Json
  | .array items => items
  | _ => []

/-- The greatest number of elements that a list is extended to. -/
def maxElements : Nat := Nat.pow 2 20

/-- The place in a list with so many elements that a number leads to, which may be after the end.
A number that leads too far leads to the last place there may be. -/
def placeOf? (size : Nat) (index : Int) : Option Nat :=
  let place := if 0 ≤ index then index else size + index
  if 0 ≤ place then some (min place.toNat (maxElements - 1)) else none

/-- A tree of settings with one at the end of a path.  A list is extended as far as the path
leads. -/
def setAt (base : Json) : List Step → Json → Json
  | [], value => value
  | [.member name], value => overlay base (.object [(name, value)])
  | .member name :: rest, value =>
    let key := Text.lowerCase name
    let under := ((membersOf base).lookup key).getD .null
    .object ((Dict.ofList (membersOf base)).insert key (setAt under rest value)).entries
  | .element index :: rest, value =>
    let items := elementsOf base
    match placeOf? items.length index with
    | some i =>
      let extended := items ++ List.replicate (i + 1 - items.length) .null
      .array (extended.modify i fun under => setAt under rest value)
    | none => base

/-- A layer laid over a tree of settings; its outermost names are paths. -/
def apply (base : Json) (layer : List (String × Json)) : Json :=
  layer.foldl (fun base m => setAt base (Step.path m.1) m.2) base

end RoundWorkflow.Layers
