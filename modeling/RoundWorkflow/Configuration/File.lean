import RoundWorkflow.Configuration.Layers
import RoundWorkflow.Files

/-!
# The file of a configuration

The path of a configuration file may leave the ending out.  A file that is there under
the path as it stands is the one meant, but it is only read if its ending is known;
otherwise the known endings are tried.  A file that is missing or cannot be read gives
no settings, and is no failure; one with settings that make no sense is.
-/

namespace RoundWorkflow.Configuration

variable {m : Type → Type} [Monad m] [Files m]

/-- The first of some files that is there. -/
def firstFile? : List (String × Settings.Format) → m (Option (String × Settings.Format))
  | [] => return none
  | (path, format) :: rest => do
    if ← Files.isFile path then return some (path, format) else firstFile? rest

/-- The file that a path is for, and its format. -/
def locate? (path : String) : m (Option (String × Settings.Format)) := do
  if ← Files.isFile path then
    return ((fileExtension? path).bind fun e => Settings.extensions.lookup e).map fun format =>
      (path, format)
  else
    firstFile? <| Settings.extensions.filterMap fun e =>
      (withEnding path e.1).map fun path => (path, e.2)

/-- The configuration of a file and an environment. -/
def load? (path : Option String) (environment : Dict String) : m (Option Configuration) := do
  let located ← match path with
    | some path => locate? path
    | none => pure none
  match located with
  | none => return Layers.configuration? none environment
  | some (path, format) =>
    match ← Files.read path with
    | .ok text => return Layers.configuration? (some (format, text)) environment
    | .error _ => return Layers.configuration? none environment

end RoundWorkflow.Configuration
