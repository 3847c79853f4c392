import UiSchema.Text.Pieces

/-!
# Path text

Paths are texts with slashes. They are joined as they stand: no part is left out or resolved.
-/

set_option autoImplicit false

namespace UiSchema.Path

def isAbsolute (path : String) : Bool := path.toList.head? == some '/'

/-- A path below a directory. An absolute path stays as it is; an empty one ends in a slash. -/
def join (directory path : String) : String :=
  if isAbsolute path || directory == "" then path
  else if directory.toList.getLast? == some '/' then directory ++ path
  else directory ++ "/" ++ path

/-- The last part of a path that is neither empty nor `.`. -/
def lastPart? (path : String) : Option String :=
  ((Text.splitOn '/' path).filter (fun s => s != "" && s != ".")).getLast?

/-- What stands behind the last dot of a name, with something in front of the dot. -/
def extensionOf (name : List Char) : List Char :=
  let reversed := name.reverse
  let ending := reversed.takeWhile (· != '.')
  match reversed.dropWhile (· != '.') with
  | _ :: _ :: _ => ending.reverse
  | _ => []

/-- The extension of the file that a path names; empty if there is none. -/
def extension (path : String) : String :=
  match lastPart? path with
  | some name => if name = ".." then "" else String.ofList (extensionOf name.toList)
  | none => ""

end UiSchema.Path
