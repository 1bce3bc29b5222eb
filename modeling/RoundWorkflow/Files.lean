import RoundWorkflow.Text.Parts

/-!
# Files

Configurations and tables are in text files.  `Files` is what reading and writing them
needs of the place where the files are; a path leads to a file there by the names
between its slashes.
-/

namespace RoundWorkflow

/-- Why a file cannot be read or written. -/
inductive FileFault where
  | notFound
  | isDirectory
  | notADirectory
  | nameTooLong
  /-- A path with the character of code zero in it. -/
  | nulInName
  /-- Another fault, in the words of the system. -/
  | other (text : String)
  deriving DecidableEq, Repr, Inhabited

/-- The wording of a fault. -/
def FileFault.message : FileFault → String
  | .notFound => "No such file or directory (os error 2)"
  | .isDirectory => "Is a directory (os error 21)"
  | .notADirectory => "Not a directory (os error 20)"
  | .nameTooLong => "File name too long (os error 36)"
  | .nulInName => "file name contained an unexpected NUL byte"
  | .other text => text

/-- A place with text files. -/
class Files (m : Type → Type) where
  /-- Whether there is a file at a path. -/
  isFile : String → m Bool
  /-- The text of a file. -/
  read : String → m (Except FileFault String)
  /-- Makes a file with a text, in place of the one that may have been there. -/
  write : String → String → m (Except FileFault Unit)

/-! ## Paths -/

/-- The name of the file that a path leads to: its last part that says anything. -/
def fileName? (path : String) : Option (List Char) :=
  match ((Text.parts '/' path.toList).filter fun p => p ≠ [] && p ≠ ['.']).getLast? with
  | some ['.', '.'] => none
  | name => name

/-- The ending of a file name after its last dot; a dot at the start of the name begins none. -/
def fileExtension? (path : String) : Option String :=
  (fileName? path).bind fun name =>
    match name.reverse.span (· ≠ '.') with
    | (ending, _ :: _ :: _) => some (String.ofList ending.reverse)
    | _ => none

/-- A path with an ending added to its file name. -/
def withEnding (path ending : String) : Option String :=
  let kept := ((Text.parts '/' path.toList).reverse.dropWhile fun p => p = [] || p = ['.']).reverse
  (fileName? path).map fun _ => String.ofList (['/'].intercalate kept) ++ "." ++ ending

end RoundWorkflow
