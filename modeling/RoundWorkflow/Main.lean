import RoundWorkflow.CommandLine.Session

/-!
# The program

Runs a session on the files of the system, with the arguments and the environment of
the process.
-/

namespace RoundWorkflow

/-- The code of the system for a path on which a file stands where a directory should. -/
def notADirectoryCode : UInt32 := 20

/-- The code of the system for a path with a name that is too long for it. -/
def nameTooLongCode : UInt32 := 36

/-- What went wrong with a file.  A code of the system may come with either sign. -/
def faultOf : IO.Error → FileFault
  | .noFileOrDirectory .. => .notFound
  | .invalidArgument _ code text =>
    if code = nameTooLongCode || code = 0 - nameTooLongCode then .nameTooLong else .other text
  | .inappropriateType _ code _ =>
    if code = notADirectoryCode || code = 0 - notADirectoryCode then
      .notADirectory else .isDirectory
  | e => .other (toString e)

instance : Files IO where
  isFile path := do return (← (IO.FS.readFile path).toBaseIO).isOk
  read path := do return (← (IO.FS.readFile path).toBaseIO).mapError faultOf
  write path text := do return (← (IO.FS.writeFile path text).toBaseIO).mapError faultOf

/-- The variables of the environment, as the system lists them. -/
def readEnvironment : IO (Dict String) := do
  match ← (IO.FS.readFile "/proc/self/environ").toBaseIO with
  | .error _ => return ∅
  | .ok text =>
    return .ofList <| (text.splitOn "\x00").filterMap fun entry =>
      match entry.splitOn "=" with
      | name :: value :: rest => some (name, "=".intercalate (value :: rest))
      | _ => none

end RoundWorkflow

open RoundWorkflow

/-- Runs the program and gives its exit code. -/
def main (arguments : List String) : IO UInt32 := do
  let session : Session ← Session.run arguments (← readEnvironment)
  (← IO.getStdout).putStr session.output
  (← IO.getStderr).putStr session.errors
  return session.code.toUInt32
