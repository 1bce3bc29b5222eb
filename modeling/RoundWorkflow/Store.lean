import RoundWorkflow.Error
import RoundWorkflow.Dict

/-!
# The store

The work of a round reads what earlier rounds wrote, in this period and before.  The
store is a map from keys to values, with a counter that every successful write moves
on by one.  A write of several keys moves it once, and an empty one not at all.  A
value can be appended to a list; where there is no value a list begins, and where
there is a value of another kind nothing changes.
-/

namespace RoundWorkflow

/-- Values by key, with a counter of writes. -/
structure Store where
  /-- The values. -/
  values : Dict Json
  /-- The number of successful writes. -/
  version : Nat
  deriving Inhabited

/-- What a value is, in the words of an error. -/
def Json.kindText : Json → String
  | .bool _ => "a boolean"
  | .number _ => "a number"
  | .string _ => "a string"
  | .array _ => "a list"
  | .object _ => "an object"
  | _ => "null"

namespace Store

/-- A store with initial values. -/
def ofDict (values : Dict Json) : Store := ⟨values, 0⟩

/-- The store without values. -/
def empty : Store := ofDict ∅

/-- The value at a key. -/
def read (s : Store) (key : String) : Option Json := s.values.get? key

/-- The value at a key, as it decodes. -/
def readBy (s : Store) (key : String) (decode : Json → Except Json.Mismatch Json) :
    Except Error (Option Json) :=
  match s.read key with
  | none => .ok none
  | some j =>
    match decode j with
    | .ok v => .ok (some v)
    | .error m => .error (.store (.mistyped key m))

/-- The value at a key, read as a type. -/
def readAs (s : Store) (key : String) (type : Json.Wanted) : Except Error (Option Json) :=
  s.readBy key (Json.readAs (Json.readMember Round) type)

/-- A value for a key as it is stored.  What has no encoding is refused, with the problem there
was. -/
def encoded (key : String) (value : Except String Json) : Except Error Json :=
  value.mapError fun problem => .store (.unencodable key problem)

/-- With a value at a key. -/
def write (s : Store) (key : String) (value : Json) : Store :=
  ⟨s.values.insert key value, s.version + 1⟩

/-- With values at several keys, in one write. -/
def update (s : Store) (values : Dict Json) : Store :=
  if values.isEmpty then s else ⟨s.values.insertAll values.entries, s.version + 1⟩

/-- The value at a key.  Where there is none, a fresh one is put there first. -/
def entry (s : Store) (key : String) (fresh : Json) : Json × Store :=
  match s.read key with
  | some j => (j, s)
  | none => (fresh, { s with values := s.values.insert key fresh })

/-- Adds a value to the list at a key, which begins where there is no value, and gives the length of
that list.  The store comes back in either case. -/
def push (s : Store) (key : String) (value : Json) : Except Error Nat × Store :=
  let (held, s) := s.entry key (.array [])
  match held with
  | .array items => (.ok (items.length + 1), s.write key (.array (items ++ [value])))
  | j => (.error (.store (.notAList key j.kindText)), s)

/-- With one more value in the list at a key, and the length of that list. -/
def append (s : Store) (key : String) (value : Json) : Except Error (Nat × Store) :=
  match s.push key value with
  | (.ok n, s) => .ok (n, s)
  | (.error fault, _) => .error fault

/-- Whether there is a value at a key. -/
def contains (s : Store) (key : String) : Bool := s.values.contains key

/-- The keys, ascending. -/
def keys (s : Store) : List String := s.values.keys

/-- All values, as an object. -/
def snapshot (s : Store) : Json := .object s.values.entries

end Store

end RoundWorkflow
