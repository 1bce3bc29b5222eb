import RoundWorkflow.Json.Reader

/-!
# Settings in JSON

A whole number that does not fit 63 bits and a sign is taken for a floating-point one.
-/

namespace RoundWorkflow.Settings

mutual

/-- The setting that a value is. -/
def settingOf : Json → Json
  | .number (.integer i) =>
    if i < Nat.pow 2 63 then .number (.integer i) else
      .number (.double (.ofDecimal false i.toNat 0))
  | .array items => .array (settingsOf items)
  | .object members => .object (namedSettingsOf members)
  | j => j

/-- The settings of the elements of an array. -/
def settingsOf : List Json → List Json
  | [] => []
  | j :: rest => settingOf j :: settingsOf rest

/-- The settings of the members of an object. -/
def namedSettingsOf : List (String × Json) → List (String × Json)
  | [] => []
  | (k, j) :: rest => (k, settingOf j) :: namedSettingsOf rest

end

/-- The deepest nesting of a JSON file. -/
def maxDepth : Nat := 127

/-- The tree of settings of a JSON text. -/
def ofJson? (text : String) : Option Json :=
  (Json.ofText? text).bind fun j =>
    if j.readable && j.depth ≤ maxDepth then some (settingOf j.sorted) else none

end RoundWorkflow.Settings
