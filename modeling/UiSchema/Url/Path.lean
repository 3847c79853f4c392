import UiSchema.Text.Pieces
import UiSchema.Url.Percent

/-!
# Paths of URLs

The normal form of a path has no dot segments left, and what may not stand in a path is
percent-encoded. A drive at the front of the path of a file is written with a colon, and no dot segment
leaves a drive.
-/

set_option autoImplicit false

namespace UiSchema.Url

def fragmentForbidden : List Char := [' ', '"', '<', '>', '\x60']

def pathForbidden : List Char := ['#', '?', '\x7b', '\x7d'] ++ fragmentForbidden

/-- A segment that stands for the directory itself. -/
def isSingleDot (s : List Char) : Bool :=
  String.ofList (s.map Char.toLower) == "." || String.ofList (s.map Char.toLower) == "%2e"

/-- A segment that stands for the directory above. -/
def isDoubleDot (s : List Char) : Bool :=
  ["..", ".%2e", "%2e.", "%2e%2e"].contains (String.ofList (s.map Char.toLower))

/-- A letter with a colon or a bar. -/
def isDrive : List Char → Bool
  | [letter, sign] => letter.isAlpha && (sign == ':' || sign == '|')
  | _ => false

/-- The segments without the last one, which is given first, unless it is a drive. -/
def leave : List (List Char) → List (List Char)
  | [] => []
  | last :: rest => if isDrive last then last :: rest else rest

/-- A drive in its normal form. -/
def normalDrive (s : List Char) : List Char := s.take 1 ++ [':']

/-- A segment as it goes behind others. -/
def entered (ofFile : Bool) (done : List (List Char)) (s : List Char) : List Char :=
  if ofFile && done.isEmpty && isDrive s then normalDrive s else s

/-- Resolves the dot segments; `done` holds the segments so far, the last one first. -/
def resolveSegments (ofFile : Bool) (done : List (List Char)) :
    List (List Char) → List (List Char)
  | [] => done.reverse
  | [last] =>
    if isSingleDot last then ([] :: done).reverse
    else if isDoubleDot last then ([] :: leave done).reverse
    else (entered ofFile done last :: done).reverse
  | s :: rest =>
    if isSingleDot s then resolveSegments ofFile done rest
    else if isDoubleDot s then resolveSegments ofFile (leave done) rest
    else resolveSegments ofFile (entered ofFile done s :: done) rest

/-- The segments of a path. A slash at its front only sets it off. -/
def segments : List Char → List (List Char)
  | '/' :: rest => Text.pieces '/' rest
  | path => Text.pieces '/' path

/-- The text of segments. -/
def pathText (segments : List (List Char)) : List Char :=
  '/' :: Text.join '/' (segments.map (encode pathForbidden))

/-- The normal form of a path below a host. -/
def normalPath (path : List Char) : List Char :=
  pathText (resolveSegments false [] (segments path))

/-- A path of a file with one slash at its front. -/
def withOneSlash (path : List Char) : List Char := '/' :: path.dropWhile (· == '/')

end UiSchema.Url
