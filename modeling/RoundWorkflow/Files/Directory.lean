import RoundWorkflow.Dict
import RoundWorkflow.Files

/-!
# A directory in memory

A directory holds text files by their paths, and has a directory inside it for every
slash in them.  It lies in a directory of its own, and this in another one, but nothing
else is there: a path that leads out of the directory leads to directories as long as it
only goes up, and never back inside.

A path is followed step by step (`walk`), and everything on the way has to be a directory,
even where the next step goes back.
-/

namespace RoundWorkflow

/-- Text files by their paths: names with single slashes between them. -/
abbrev Directory := Dict String

namespace Directory

/-- What a path leads to. -/
inductive Place where
  /-- A file, by the names on its path. -/
  | file (names : List (List Char)) (text : String)
  | directory
  /-- Nothing in a directory; a slash may come after the name. -/
  | vacant (names : List (List Char)) (slashed : Bool)
  | fault (fault : FileFault)
  deriving DecidableEq, Repr, Inhabited

/-- The path that names are on. -/
def pathOf (names : List (List Char)) : String := String.ofList (['/'].intercalate names)

/-- Whether names lead to a directory: the directory itself, or one on the way to a file. -/
def isDirectory (d : Directory) (names : List (List Char)) : Bool :=
  names = [] || d.keys.any fun k => (pathOf names ++ "/").toList.isPrefixOf k.toList

/-- The greatest number of bytes of a name. -/
def maxName : Nat := 255

/-- The greatest number of bytes of a path. -/
def maxPath : Nat := 4095

/-- Follows the parts of a path from a directory.  The names that lead to it are given in reverse;
a directory outside has none. -/
def walk (d : Directory) (here : Option (List (List Char))) : List (List Char) → Place
  | [] => .directory
  | part :: rest =>
    if part = [] || part = ['.'] then d.walk here rest
    else if part = ['.', '.'] then
      match here with
      | some (_ :: up) => d.walk (some up) rest
      | _ => d.walk none rest
    else if maxName < (String.ofList part).utf8ByteSize then .fault .nameTooLong
    else
      match here with
      | none => .fault .notFound
      | some up =>
        let names := (part :: up).reverse
        if d.isDirectory names then d.walk (some (part :: up)) rest
        else
          match d.get? (pathOf names) with
          | some text => if rest.isEmpty then .file names text else .fault .notADirectory
          | none => if rest.all (·.isEmpty) then .vacant names !rest.isEmpty else .fault .notFound

/-- What a path leads to. -/
def resolve (d : Directory) (path : String) : Place :=
  let cs := path.toList
  if cs.contains '\x00' then .fault .nulInName
  else if path = "" then .fault .notFound
  else if maxPath < path.utf8ByteSize then .fault .nameTooLong
  else d.walk (if cs.head? = some '/' then none else some []) (Text.parts '/' cs)

/-- The text of a file. -/
def read (d : Directory) (path : String) : Except FileFault String :=
  match d.resolve path with
  | .file _ text => .ok text
  | .directory => .error .isDirectory
  | .vacant .. => .error .notFound
  | .fault fault => .error fault

/-- The directory with a file.  A path that ends in a slash is no path for a file. -/
def write (d : Directory) (path text : String) : Except FileFault Directory :=
  match d.resolve path with
  | .file names _ | .vacant names false => .ok (d.insert (pathOf names) text)
  | .directory | .vacant _ true => .error .isDirectory
  | .fault fault => .error fault

end Directory

instance : Files (StateM Directory) where
  isFile path := do return (Directory.read (← get) path).isOk
  read path := do return Directory.read (← get) path
  write path text := do
    match Directory.write (← get) path text with
    | .ok d =>
      set d
      return .ok ()
    | .error fault => return .error fault

end RoundWorkflow
