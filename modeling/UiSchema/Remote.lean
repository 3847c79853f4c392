import UiSchema.Decode.Codec
import UiSchema.Notice
import UiSchema.Text.Pieces

/-!
# Remote calls

A transport answers two kinds of calls; its answers may depend on the calls made before. `Remote` is
a computation that makes such calls: it carries a journal of the calls and of the notices that were
given on the way. A failed fetch is an error of its own, a rejected post an error set: messages by
field name.
-/

set_option autoImplicit false

namespace UiSchema

/-- Why a body could not be read. -/
inductive BodyError where
  | shape (cause : DecodeError)
  | malformed (text : String)

def BodyError.message : BodyError → String
  | .shape cause => cause.message
  | .malformed text => text

inductive TransportError where
  | request (url message : String)
  | status (url : String) (code : Nat)
  | decode (url : String) (cause : BodyError)

def TransportError.message : TransportError → String
  | .request url message => "request to '" ++ url ++ "' failed: " ++ message
  | .status url code =>
    "'" ++ url ++ "' returned status " ++ String.ofList (Nat.toDigits 10 code)
  | .decode url cause => "response from '" ++ url ++ "' could not be decoded: " ++ cause.message

/-- The messages of a rejected post by field name. -/
abbrev ErrorSet := Dict String

namespace ErrorSet

def single (key message : String) : ErrorSet := [(key, message)]

def ofTransportError (e : TransportError) : ErrorSet := single "err" e.message

/-- A text as it is, any other value as document text. -/
def textOf : Json → String
  | .str s => s
  | v => v.compact

def messageOf : Json → String
  | .arr items => Text.joinWith "; " (items.map textOf)
  | v => textOf v

/-- The error set that a body describes under `errors`, if it does. -/
def ofBody? (body : Json) : Option ErrorSet :=
  match body.field? "errors" with
  | some (.obj fields) => some (Dict.mapValues messageOf fields)
  | _ => none

def message (errors : ErrorSet) : String :=
  Text.joinWith ", " (errors.map (fun e => e.1 ++ ": " ++ e.2))

def codec : Codec ErrorSet := .dict .text

def toJson (errors : ErrorSet) : Json := .obj (Dict.mapValues Json.str errors)

end ErrorSet

/-- A call of a transport. -/
inductive Call where
  | get (url : String)
  | post (url : String) (payload : Json)

/-- The calls made and the notices given, in order. -/
structure Journal where
  calls : List Call := []
  notices : List Notice := []

abbrev Remote (α : Type) := StateM Journal α

structure Transport where
  get : List Call → String → Except TransportError Json
  post : List Call → String → Json → Except ErrorSet Json

namespace Remote

def warn (text : String) : Remote Unit :=
  modify (fun j => { j with notices := j.notices ++ [.warning text] })

/-- Fetches a body. -/
def get (t : Transport) (url : String) : Remote (Except TransportError Json) := fun j =>
  (t.get j.calls url, { j with calls := j.calls ++ [.get url] })

/-- Posts a payload. -/
def post (t : Transport) (url : String) (payload : Json) : Remote (Except ErrorSet Json) := fun j =>
  (t.post j.calls url payload, { j with calls := j.calls ++ [.post url payload] })

/-- Fetches a body and decodes it. -/
def fetchAs {α : Type} (codec : Codec α) (t : Transport) (url : String) :
    Remote (Except TransportError α) := do
  let answer ← get t url
  return answer.bind (fun body =>
    (codec.decode body).mapError (fun e => TransportError.decode url (.shape e)))

/-- Posts a payload and decodes the response; a response of another shape is an error under `err`. -/
def postAs {α : Type} (codec : Codec α) (t : Transport) (url : String) (payload : Json) :
    Remote (Except ErrorSet α) := do
  let answer ← post t url payload
  return answer.bind (fun body =>
    (codec.decode body).mapError (fun e => ErrorSet.single "err" e.message))

end Remote

end UiSchema
