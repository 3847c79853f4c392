import UiSchema.Dict
import UiSchema.Text.Pieces
import UiSchema.Workspace.Path

/-!
# Files

A file system is what is found at a path: the text of a file, or the reason why there is none to
read. A directory of named texts makes one; its paths are followed part by part, and may lead out of
it and back only through directories that hold it.
-/

set_option autoImplicit false

namespace UiSchema

inductive ReadFault where
  | missing
  | throughFile
  | directory
  | nameTooLong
  | nulInName
  | notText
deriving DecidableEq

def ReadFault.message : ReadFault → String
  | missing => "No such file or directory (os error 2)"
  | throughFile => "Not a directory (os error 20)"
  | directory => "Is a directory (os error 21)"
  | nameTooLong => "File name too long (os error 36)"
  | nulInName => "file name contained an unexpected NUL byte"
  | notText => "stream did not contain valid UTF-8"

abbrev FileSystem := String → Except ReadFault String

/-- Whether there is anything at a path. -/
def FileSystem.has (files : FileSystem) (path : String) : Bool :=
  match files path with
  | .ok _ => true
  | .error .directory => true
  | .error .notText => true
  | .error _ => false

/-- The most bytes that one name may have. -/
def maxNameBytes : Nat := 255

/-- The most bytes that a whole path may have. -/
def maxPathBytes : Nat := 4095

/-- Why a text cannot be a path at all. -/
def pathFault? (path : String) : Option ReadFault :=
  if path.toList.contains '\x00' then some .nulInName
  else if path == "" then some .missing
  else if maxPathBytes < path.utf8ByteSize then some .nameTooLong
  else none

/-- Texts by the names of their files, with slashes between the directories of a name. -/
structure Directory where
  files : Dict String

namespace Directory

/-- Where a path has led to so far. -/
inductive Place where
  /-- a directory, by the names down to it -/
  | inside (names : List String)
  /-- a directory above the working directory; nothing is known to be in it -/
  | above
  | file (text : String)

def isDirectory (d : Directory) (names : List String) : Bool :=
  names.isEmpty ||
    d.files.any (fun e => (Text.joinWith "/" names ++ "/").toList.isPrefixOf e.1.toList)

/-- What a name stands for in a directory. -/
def named (d : Directory) (names : List String) (name : String) : Except ReadFault Place :=
  let names := names ++ [name]
  match Dict.get? d.files (Text.joinWith "/" names) with
  | some text => .ok (.file text)
  | none => if d.isDirectory names then .ok (.inside names) else .error .missing

/-- The directory that holds a directory. -/
def holder (names : List String) : Place :=
  if names.isEmpty then .above else .inside names.dropLast

/-- Follows one part of a path. -/
def follow (d : Directory) (place : Place) (part : String) : Except ReadFault Place :=
  match place with
  | .file _ => .error .throughFile
  | .above =>
    if part = "" ∨ part = "." ∨ part = ".." then .ok .above
    else if maxNameBytes < part.utf8ByteSize then .error .nameTooLong
    else .error .missing
  | .inside names =>
    if part = "" ∨ part = "." then .ok (.inside names)
    else if part = ".." then .ok (holder names)
    else if maxNameBytes < part.utf8ByteSize then .error .nameTooLong
    else d.named names part

/-- The file system of a working directory. Nothing else exists beside it. -/
def fileSystem (d : Directory) : FileSystem := fun path =>
  match pathFault? path with
  | some fault => .error fault
  | none =>
    let start := if Path.isAbsolute path then Place.above else .inside []
    match (Text.splitOn '/' path).foldlM (follow d) start with
    | .ok (.file text) => .ok text
    | .ok _ => .error .directory
    | .error e => .error e

end Directory

end UiSchema
