import UiSchema.Url.Host
import UiSchema.Url.Path

/-!
# Absolute URLs

The parts of an absolute URL in their normal forms: scheme and host in lower case, without the scheme's
own port, dot segments of the path resolved, and all that may not stand in a part percent-encoded. The
schemes of the web have a host and take backslashes for slashes; a file may have a host; any other
scheme has a host only behind two slashes, and a path without a slash at its front stays as it is.
-/

set_option autoImplicit false

namespace UiSchema.Url

structure Authority where
  user : List Char := []
  password : List Char := []
  host : Option Host := none
  port : Option Nat := none

structure Absolute where
  scheme : String
  authority : Option Authority := none
  path : List Char
  query : Option (List Char) := none
  fragment : Option (List Char) := none

/-! ## Printing -/

namespace Authority

/-- The credentials with the sign that sets them off. -/
def credentialsText (a : Authority) : List Char :=
  let password := if a.password.isEmpty then [] else ':' :: a.password
  if a.user.isEmpty && a.password.isEmpty then [] else a.user ++ password ++ ['@']

def hostText (a : Authority) : List Char := (a.host.map Host.text).getD []

def portText (a : Authority) : List Char :=
  match a.port with
  | some n => ':' :: decimalText n
  | none => []

def text (a : Authority) : List Char := a.credentialsText ++ a.hostText ++ a.portText

/-- The authority without its credentials, if they are text. A password counts only if it is text
itself, or stands beside a user. -/
def withoutCredentials (a : Authority) : Authority :=
  let isText (cs : List Char) : Bool := (decode? cs).isSome
  if isText a.user && (!a.user.isEmpty || isText a.password) then
    { a with user := [], password := [] }
  else a

end Authority

/-- A part behind the sign that sets it off. -/
def partText (sign : Char) : Option (List Char) → List Char
  | some part => sign :: part
  | none => []

namespace Absolute

/-- Without an authority, two slashes may not stand behind the scheme. -/
def locationText (u : Absolute) : List Char :=
  match u.authority, u.path with
  | some a, path => "//".toList ++ a.text ++ path
  | none, '/' :: '/' :: rest => "/.//".toList ++ rest
  | none, path => path

def text (u : Absolute) : String :=
  String.ofList (u.scheme.toList ++ ':' :: u.locationText ++
    partText '?' u.query ++ partText '#' u.fragment)

def withoutCredentials (u : Absolute) : Absolute :=
  { u with authority := u.authority.map Authority.withoutCredentials }

end Absolute

/-! ## Reading the front -/

def isIgnored (c : Char) : Bool := c == '\t' || c == '\n' || c == '\r'

def isEdge (c : Char) : Bool := decide (c.toNat ≤ 32)

/-- The text without blanks and control characters at its ends, and without line breaks and tabs. -/
def cleaned (cs : List Char) : List Char :=
  let cs := (cs.dropWhile isEdge).reverse
  ((cs.dropWhile isEdge).reverse).filter (fun c => !isIgnored c)

def isSchemeChar (c : Char) : Bool := c.isAlphanum || c == '+' || c == '-' || c == '.'

/-- The scheme of a text, in lower case, and what follows its colon. -/
def scheme? (cs : List Char) : Option (List Char × List Char) :=
  match cs with
  | [] => none
  | c :: _ =>
    if !c.isAlpha then none
    else
      match cs.dropWhile isSchemeChar with
      | ':' :: rest => some ((cs.takeWhile isSchemeChar).map Char.toLower, rest)
      | _ => none

inductive SchemeKind where
  /-- a scheme of the web, with the port it implies -/
  | web (port : Nat)
  | file
  | other

/-- The schemes of the web, with the ports they imply. -/
def webPorts : List (String × Nat) :=
  [("http", 80), ("https", 443), ("ws", 80), ("wss", 443), ("ftp", 21)]

def SchemeKind.of (scheme : String) : SchemeKind :=
  match webPorts.lookup scheme with
  | some port => .web port
  | none => if scheme = "file" then .file else .other

/-- Whether hosts are domain names and backslashes stand for slashes. -/
def SchemeKind.isSpecial : SchemeKind → Bool
  | other => false
  | _ => true

/-! ## Authority -/

def userForbidden : List Char :=
  ['/', ':', ';', '=', '@', '[', '\\', ']', '^', '|'] ++ pathForbidden

/-- User and password in front of a host. -/
def readCredentials (cs : List Char) : List Char × List Char :=
  match Text.cutOnce ':' cs with
  | some (user, password) => (encode userForbidden user, encode userForbidden password)
  | none => (encode userForbidden cs, [])

/-- What stands in front of the last at sign, and what behind it. -/
def cutCredentials (cs : List Char) : Option (List Char) × List Char :=
  let behind := (cs.reverse.takeWhile (· != '@')).reverse
  match cs.reverse.dropWhile (· != '@') with
  | _ :: reversed => (some reversed.reverse, behind)
  | [] => (none, cs)

/-- The text in front of the first colon outside of brackets, and the text from it on. -/
def cutHost (isInside : Bool) : List Char → List Char × List Char
  | [] => ([], [])
  | c :: rest =>
    if c = ':' ∧ !isInside then ([], c :: rest)
    else
      let isInside := if c = '[' then true else if c = ']' then false else isInside
      let (host, behind) := cutHost isInside rest
      (c :: host, behind)

def maxPort : Nat := 65535

/-- A port, with what stands behind its digits: nothing, or a backslash that starts a path. -/
def readPort? (cs : List Char) : Option (Option Nat × List Char) :=
  match cs with
  | ':' :: rest =>
    let (digits, behind) := Text.readDigits rest
    let port := Text.natOfDigits 10 digits
    if maxPort < port || !(behind.isEmpty || behind.head? == some '\\') then none
    else some (if digits.isEmpty then none else some port, behind)
  | _ => some (none, cs)

/-- The port that is written: the one that the scheme implies is not. -/
def SchemeKind.written (kind : SchemeKind) (port : Option Nat) : Option Nat :=
  match kind with
  | .web implied => if port = some implied then none else port
  | _ => port

/-- The host of an authority, which only a scheme of its own may leave out. -/
def SchemeKind.host? (kind : SchemeKind) (text : List Char) : Option (Option Host) :=
  if kind.isSpecial then (Host.ofDomain? text).map some
  else if text.isEmpty then some none
  else (Host.ofVerbatim? text).map some

/-- An authority, with what stands behind it. Without a host it holds nothing. -/
def SchemeKind.authority? (kind : SchemeKind) (cs : List Char) :
    Option (Authority × List Char) := do
  let (credentials, location) := cutCredentials cs
  if credentials == some [] && location.isEmpty then none
  else
    let (user, password) := readCredentials (credentials.getD [])
    let (hostText, portText) := cutHost false location
    let host ← kind.host? hostText
    let (port, behind) ← readPort? portText
    let authority : Authority := ⟨user, password, host, kind.written port⟩
    if host.isNone && !(portText.isEmpty && authority.credentialsText.isEmpty) then none
    else some (authority, behind)

/-! ## The parts behind -/

def queryForbidden : List Char := [' ', '"', '#', '<', '>']

def SchemeKind.queryForbidden (kind : SchemeKind) : List Char :=
  if kind.isSpecial then '\x27' :: Url.queryForbidden else Url.queryForbidden

def startsTail (c : Char) : Bool := c == '?' || c == '#'

/-- What stands in front of the first character of a class, and what from it on. -/
def cutAt (stops : Char → Bool) (cs : List Char) : List Char × List Char :=
  (cs.takeWhile (fun c => !stops c), cs.dropWhile (fun c => !stops c))

/-- The query and the fragment at the end of a URL. -/
def SchemeKind.tail (kind : SchemeKind) (cs : List Char) :
    Option (List Char) × Option (List Char) :=
  let query (text : List Char) : List Char := encode kind.queryForbidden text
  let fragment : List Char → Option (List Char)
    | '#' :: text => some (encode fragmentForbidden text)
    | _ => none
  match cs with
  | '?' :: rest =>
    let (text, behind) := cutAt (· == '#') rest
    (some (query text), fragment behind)
  | _ => (none, fragment cs)

/-- A text with slashes in place of its backslashes. -/
def withSlashes (cs : List Char) : List Char := cs.map (fun c => if c = '\\' then '/' else c)

/-- What may end the authority: a slash, or the signs of query and fragment. -/
def endsAuthority (c : Char) : Bool := c == '/' || startsTail c

/-! ## Locations -/

/-- An authority, if there is one, and a path. -/
abbrev Location := Option Authority × List Char

/-- The location behind the slashes of a scheme of the web. -/
def webLocation? (kind : SchemeKind) (cs : List Char) : Option Location := do
  let (text, path) := cutAt endsAuthority (cs.dropWhile (· == '/'))
  let (authority, _) ← kind.authority? text
  some (some authority, normalPath path)

/-- The path of a file behind a host, which a drive at the front of the path replaces. -/
def fileLocation (host : Option Host) (segments : List (List Char)) : Location :=
  let resolved := resolveSegments true [] segments
  let host := if resolved.head?.any isDrive then none else host
  (some { host := host }, withOneSlash (pathText resolved))

def localHost : List Char := "localhost".toList

/-- The location of a file. A drive may stand in the place of the host; this machine is no host. -/
def fileLocation? (cs : List Char) : Option Location :=
  match cs with
  | '/' :: '/' :: rest =>
    let (text, path) := cutAt (· == '/') rest
    if isDrive text then some (fileLocation none (Text.pieces '/' rest))
    else if text.isEmpty then some (fileLocation none (Text.pieces '/' path))
    else
      match Host.ofDomain? text with
      | none => none
      | some (.domain name) =>
        if name = localHost then some (fileLocation none (Text.pieces '/' path))
        else some (fileLocation (some (.domain name)) (segments path))
      | some host => some (fileLocation (some host) (segments path))
  | _ => some (fileLocation none (segments cs))

/-- The location behind any other scheme. -/
def otherLocation? (cs : List Char) : Option Location :=
  match cs with
  | '/' :: '/' :: rest => do
    let (text, path) := cutAt endsAuthority rest
    let (authority, behind) ← SchemeKind.other.authority? text
    let path := behind ++ path
    some (some authority, if path.isEmpty then [] else normalPath path)
  | '/' :: _ => some (none, normalPath cs)
  | _ => some (none, encode [] cs)

def SchemeKind.location? (kind : SchemeKind) (cs : List Char) : Option Location :=
  match kind with
  | .web _ => webLocation? kind (withSlashes cs)
  | .file => fileLocation? (withSlashes cs)
  | .other => otherLocation? cs

/-- The URL that a text writes. -/
def Absolute.ofText? (text : String) : Option Absolute := do
  let (scheme, rest) ← scheme? (cleaned text.toList)
  let kind := SchemeKind.of (String.ofList scheme)
  let (location, tail) := cutAt startsTail rest
  let (authority, path) ← kind.location? location
  let (query, fragment) := kind.tail tail
  some ⟨String.ofList scheme, authority, path, query, fragment⟩

/-! ## Web resources -/

/-- Why a text is no URL that can be requested. -/
inductive Fault where
  | unreadable
  /-- a URL, but not one that a request can be sent to -/
  | unreachable (normal : String)

/-- Characters that a host may hold, but no request. -/
def requestForbidden : List Char := ['"', '\x60', '\x7b', '\x7d']

/-- The most characters of a URL in a request. -/
def maxRequested : Nat := 65534

/-- Whether a URL can stand in a request. -/
def Absolute.isRequestable (u : Absolute) : Bool :=
  (u.scheme == "http" || u.scheme == "https") &&
    u.authority.all (fun a => !a.text.any requestForbidden.contains) &&
    decide (u.text.length ≤ maxRequested)

/-- The normal form of the URL of a web resource. -/
def webUrl (text : String) : Except Fault String :=
  match Absolute.ofText? text with
  | none => .error .unreadable
  | some u =>
    let u := u.withoutCredentials
    if u.isRequestable then .ok u.text else .error (.unreachable u.text)

end UiSchema.Url
