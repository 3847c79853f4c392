import UiSchema.Toml.Scalar
import UiSchema.Toml.Table

/-!
# Reading a sectioned document

Arrays and inline tables may be nested `nestingLimit` deep, and a dotted key has at most as many
parts. The document is read line by line; the state is the table of all entries and the path of the
table that was opened last.
-/

set_option autoImplicit false

namespace UiSchema.Toml

open Text

def nestingLimit : Nat := 79

def isBareKeyChar (c : Char) : Bool := c.isAlphanum || c == '_' || c == '-'

def readKeyPart : Reader String
  | '"' :: rest => readShortString ('"' :: rest)
  | '\'' :: rest => readShortString ('\'' :: rest)
  | cs =>
    let name := cs.takeWhile isBareKeyChar
    if name.isEmpty then none else some (String.ofList name, cs.dropWhile isBareKeyChar)

def readKeyParts : Nat → Reader (List String)
  | 0, _ => none
  | fuel + 1, cs => do
    let (part, cs) ← readKeyPart (skipSpace cs)
    match skipSpace cs with
    | '.' :: rest =>
      let (parts, rest) ← readKeyParts fuel rest
      some (part :: parts, rest)
    | cs => some ([part], cs)

/-- A dotted key: the path before its last part, and the last part. -/
def readKey : Reader (List String × String) := fun cs => do
  let (parts, rest) ← readKeyParts nestingLimit cs
  let last ← parts.getLast?
  some ((parts.dropLast, last), rest)

def skipComment : List Char → List Char
  | '#' :: rest => rest.dropWhile isPlain
  | cs => cs

/-- Space, comments and line ends, in any number. -/
def skipFiller : Nat → List Char → List Char
  | 0, cs => cs
  | fuel + 1, cs =>
    let cs := skipComment (skipSpace cs)
    match dropNewline? cs with
    | some rest => skipFiller fuel rest
    | none => cs

/-- The end of a line, behind space and a comment. -/
def dropLineEnd? (cs : List Char) : Option (List Char) :=
  match skipComment (skipSpace cs) with
  | [] => some []
  | cs => dropNewline? cs

/-- Items up to the closing bracket; a comma may stand behind the last. -/
def readItems (item : Reader Item) : Nat → Reader (List Item)
  | 0, _ => none
  | fuel + 1, cs =>
    match skipFiller cs.length cs with
    | ']' :: rest => some ([], rest)
    | cs => do
      let (v, cs) ← item cs
      match skipFiller cs.length cs with
      | ']' :: rest => some ([v], rest)
      | ',' :: rest =>
        let (vs, rest) ← readItems item fuel rest
        some (v :: vs, rest)
      | _ => none

def readAssignment (item : Reader Item) : Reader ((List String × String) × Item) := fun cs => do
  let (key, cs) ← readKey cs
  let cs ← readSeparator '=' cs
  let (v, cs) ← item (skipSpace cs)
  some ((key, v), cs)

/-- Assignments of an inline table up to the closing brace, the first of them at hand. -/
def readInlineEntries (item : Reader Item) : Nat → Entries → Reader Entries
  | 0, _, _ => none
  | fuel + 1, t, cs => do
    let ((key, v), cs) ← readAssignment item cs
    let t ← assign true key.1 key.2 v t
    match skipSpace cs with
    | '\x7d' :: rest => some (t, rest)
    | ',' :: rest => readInlineEntries item fuel t rest
    | _ => none

def readInlineTable (item : Reader Item) : Reader Item := fun cs =>
  match skipSpace cs with
  | '\x7d' :: rest => some (.inline [], rest)
  | cs => (readInlineEntries item (cs.length + 1) [] cs).map (fun p => (.inline p.1, p.2))

/-- A value that nests arrays and inline tables at most `depth` deep. -/
def readValue : Nat → Reader Item
  | 0, cs => (readScalar cs).map (fun p => (.value p.1, p.2))
  | depth + 1, cs =>
    match cs with
    | '[' :: rest => (readItems (readValue depth) (rest.length + 1) rest).map
        (fun p => (.list p.1, p.2))
    | '\x7b' :: rest => readInlineTable (readValue depth) rest
    | cs => (readScalar cs).map (fun p => (.value p.1, p.2))

structure State where
  entries : Entries
  current : List String

/-- One line that is neither empty nor a comment. -/
def readLine (s : State) (cs : List Char) : Option (State × List Char) :=
  match cs with
  | '[' :: '[' :: rest => do
    let ((path, last), rest) ← readKey rest
    let rest ← dropWord? [']', ']'] rest
    let rest ← dropLineEnd? rest
    let entries ← openRow path last s.entries
    some (⟨entries, path ++ [last]⟩, rest)
  | '[' :: rest => do
    let ((path, last), rest) ← readKey rest
    let rest ← dropWord? [']'] rest
    let rest ← dropLineEnd? rest
    let entries ← openTable path last s.entries
    some (⟨entries, path ++ [last]⟩, rest)
  | cs => do
    let ((key, v), rest) ← readAssignment (readValue nestingLimit) cs
    let rest ← dropLineEnd? rest
    let entries ← assignIn s.current key.1 key.2 v s.entries
    some (⟨entries, s.current⟩, rest)

def readLines : Nat → State → List Char → Option State
  | 0, _, _ => none
  | fuel + 1, s, cs =>
    match skipFiller cs.length cs with
    | [] => some s
    | cs => do
      let (s, rest) ← readLine s cs
      readLines fuel s rest

def byteOrderMark : Char := '\ufeff'

/-- The object that a document holds; a byte order mark at its front is no part of it. -/
def parse? (text : String) : Option Json :=
  let cs := match text.toList with
    | [] => []
    | c :: rest => if c = byteOrderMark then rest else c :: rest
  (readLines (cs.length + 1) ⟨[], []⟩ cs).bind (fun s => tableToJson? s.entries)

end UiSchema.Toml
