import RoundWorkflow.Json
import RoundWorkflow.Enumeration

/-!
# Reading typed values out of JSON

A record is read from an object, whose members may come in any order and may
include members that the record does not know, or from an array that lists the
fields in declaration order.  A known field that occurs twice is refused, and so
is an array that is longer than the record.  `fields?` does this much and gives
the fields that are there; each record then says which of them it requires and
which have a default.

A name of a closed enumeration is written as a string, or as an object whose only
member has that key and the value null.  A map is read from an object; of a key
that occurs twice the last value counts.
-/

namespace RoundWorkflow.Json

/-! ## Records -/

/-- The fields of a record that a value holds. -/
structure Fields where
  /-- Names and values; no name occurs twice. -/
  entries : List (String × Json)

/-- Whether a list of names repeats one. -/
def repeats : List String → Bool
  | [] => false
  | n :: ns => ns.contains n || repeats ns

/-- The fields with these names that a value holds. -/
def fields? (names : List String) : Json → Option Fields
  | .object members =>
    let known := members.filter fun m => names.contains m.1
    if repeats (known.map Prod.fst) then none else some ⟨known⟩
  | .array items => if items.length ≤ names.length then some ⟨names.zip items⟩ else none
  | _ => none

/-- The value of a field, if it is there. -/
def Fields.get? (fs : Fields) (name : String) : Option Json :=
  (fs.entries.find? fun e => e.1 = name).map Prod.snd

/-- A field that has to be there. -/
def Fields.required (fs : Fields) (name : String) (decode : Json → Option α) : Option α :=
  (fs.get? name).bind decode

/-- A field with a default. -/
def Fields.withDefault (fs : Fields) (name : String) (decode : Json → Option α) (value : α) :
    Option α :=
  match fs.get? name with
  | none => some value
  | some j => decode j

/-! ## Values -/

/-- A whole number from 0 to a limit. -/
def natural? (limit : Nat) : Json → Option Nat
  | .number (.integer i) => if 0 ≤ i ∧ i.toNat ≤ limit then some i.toNat else none
  | _ => none

/-- A whole number of 64 bits. -/
def uint64? (j : Json) : Option UInt64 := (natural? (UInt64.size - 1) j).map UInt64.ofNat

/-- A whole number of 32 bits. -/
def uint32? (j : Json) : Option UInt32 := (natural? (UInt32.size - 1) j).map UInt32.ofNat

/-- A truth value. -/
def bool? : Json → Option Bool
  | .bool b => some b
  | _ => none

/-- A string. -/
def string? : Json → Option String
  | .string s => some s
  | _ => none

/-- A value, or null for none. -/
def option? (decode : Json → Option α) : Json → Option (Option α)
  | .null => some none
  | j => (decode j).map some

/-- A member of a closed enumeration. -/
def named? {α : Type} [DecidableEq α] [Enumeration α] : Json → Option α
  | .string s => Enumeration.ofName? s
  | .object [(k, .null)] => Enumeration.ofName? k
  | _ => none

/-- All elements of a list decoded, if each of them can be. -/
def decodeAll (decode : Json → Option α) : List Json → Option (List α)
  | [] => some []
  | j :: rest => (decode j).bind fun a => (decodeAll decode rest).map (a :: ·)

/-- An array. -/
def list? (decode : Json → Option α) : Json → Option (List α)
  | .array items => decodeAll decode items
  | _ => none

/-- All values of a list of members decoded, if each of them can be. -/
def decodeMembers (decode : Json → Option α) : List (String × Json) → Option (List (String × α))
  | [] => some []
  | (k, j) :: rest => (decode j).bind fun a => (decodeMembers decode rest).map ((k, a) :: ·)

/-- A map. -/
def dict? (decode : Json → Option α) : Json → Option (Dict α)
  | .object members => (decodeMembers decode members).map Dict.ofList
  | _ => none

end RoundWorkflow.Json
