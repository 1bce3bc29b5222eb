import RoundWorkflow.Configuration.Format
import RoundWorkflow.Configuration.Lenient
import RoundWorkflow.Configuration.Overlay
import RoundWorkflow.Exchange

/-!
# Layers of a configuration

A configuration is put together from layers: the defaults, then a file, then the
environment, each laid over what is before it.

A variable of the environment belongs to the configuration when its name begins with
`LOCKSTEP_`.  The rest of its name is a path, two underscores between its parts, and its
value is taken for a truth value, a number or a text, whichever fits first.
-/

namespace RoundWorkflow.Layers

/-! ## The environment -/

/-- What the names of the variables of a configuration begin with, in small letters. -/
def variableStart : List Char := "lockstep_".toList

/-- Replaces every pair of underscores by a dot. -/
def dotted : List Char → List Char
  | '_' :: '_' :: rest => '.' :: dotted rest
  | c :: rest => c :: dotted rest
  | [] => []

/-- The name of the setting that a variable gives, if it gives one. -/
def settingName? (name : String) : Option String :=
  let cs := Text.lowerChars name.toList
  if variableStart.isPrefixOf cs then some (String.ofList (dotted (cs.drop variableStart.length)))
  else none

/-- The setting that the value of a variable stands for. -/
def variableValue (s : String) : Json :=
  let small := Text.lowerCase s
  if small = "true" then .bool true
  else if small = "false" then .bool false
  else
    match (Text.integer? s.toList).filter Text.isInt64 with
    | some i => .number (.integer i)
    | none =>
      match Text.double? s.toList with
      | some d => .number (.double d)
      | none => .string s

/-- The layer of an environment. -/
def ofEnvironment (environment : Dict String) : List (String × Json) :=
  environment.entries.filterMap fun e => (settingName? e.1).map fun name =>
    (name, variableValue e.2)

/-! ## Configurations -/

/-- The configuration of a file, if there is one, and an environment. -/
def configuration? (file : Option (Settings.Format × String)) (environment : Dict String) :
    Option Configuration := do
  let fromFile ← match file with
    | some (format, text) => Settings.ofFile format text
    | none => some []
  let defaults := Exchange.encode Configuration.standard
  Lenient.configuration? (apply (apply defaults fromFile) (ofEnvironment environment))

end RoundWorkflow.Layers
