import RoundWorkflow.Configuration.Format.Ini
import RoundWorkflow.Configuration.Format.Json
import RoundWorkflow.Configuration.Format.Json5
import RoundWorkflow.Configuration.Format.Ron
import RoundWorkflow.Configuration.Format.Toml
import RoundWorkflow.Configuration.Format.Yaml

/-!
# Formats of configuration files

A file is in one of six formats, which the ending of its name tells.  Whatever the format
is, a file holds a tree of settings, and the tree has to be a map.
-/

namespace RoundWorkflow.Settings

/-- The format of a configuration file. -/
inductive Format where
  | toml
  | json
  | yaml
  | ini
  | ron
  | json5
  deriving DecidableEq, Repr, Inhabited

/-- The endings of the names of files in known formats. -/
def extensions : List (String × Format) :=
  [("toml", .toml), ("json", .json), ("yaml", .yaml), ("yml", .yaml), ("ini", .ini), ("ron", .ron),
    ("json5", .json5)]

/-- The tree of settings of a text. -/
def Format.tree? : Format → String → Option Json
  | .toml => ofToml?
  | .json => ofJson?
  | .yaml => ofYaml?
  | .ini => ofIni?
  | .ron => ofRon?
  | .json5 => ofJson5?

/-- The settings of a file, by their outermost names. -/
def ofFile (format : Format) (text : String) : Option (List (String × Json)) :=
  match format.tree? text with
  | some (.object members) => some (Dict.ofList members).entries
  | _ => none

end RoundWorkflow.Settings
