import UiSchema.Config
import UiSchema.Http.Status
import UiSchema.Json.Parser
import UiSchema.Remote
import UiSchema.Url.Absolute

/-!
# Requests over HTTP

A client turns the calls of a transport into requests below a base URL and reads documents from what
a network answers. A body without bytes reads as null. A rejected post gives the messages that its
body describes under `errors`, or one that tells the status. The words in which a body without a
document is refused are those of whatever reads it, and come with the network.
-/

set_option autoImplicit false

namespace UiSchema.Http

inductive Method where
  | get
  | post
deriving DecidableEq

structure Request where
  method : Method
  url : String
  authorization : Option String
  body : Option String

/-- What comes back for a request: a response, or nothing. -/
inductive Exchange where
  | answered (status : Nat) (body : ByteArray)
  | unanswered

/-- What clients work over. -/
structure Network where
  /-- what comes back for a request, which may depend on the calls made before -/
  answer : List Call → Request → Exchange
  /-- what is said of a body that holds no document -/
  complaint : ByteArray → String

/-- The network without any server. No body comes from it, so it has no words for one. -/
def Network.unreachable : Network := ⟨fun _ _ => .unanswered, fun _ => ""⟩

inductive ClientError where
  | noBaseUrl
  | invalidToken
deriving DecidableEq

/-- The message of an error, and that of its cause if it has one. -/
def ClientError.chain : ClientError → List String
  | noBaseUrl => ["api.base_url is not configured"]
  | invalidToken => ["Invalid API token", "failed to parse header value"]

structure Client where
  baseUrl : Option String
  authorization : Option String

/-- A character that may stand in a header: a tab or anything but control characters. -/
def isHeaderChar (c : Char) : Bool := c == '\t' || (decide (32 ≤ c.toNat) && c != '\x7f')

namespace Client

/-- The client of a configuration; a token has to be a header value. -/
def ofConfig (c : ApiConfig) : Except ClientError Client :=
  match c.token with
  | none => .ok ⟨c.baseUrl, none⟩
  | some token =>
    if token.toList.all isHeaderChar then .ok ⟨c.baseUrl, some ("Token " ++ token)⟩
    else .error .invalidToken

def isAbsolute (endpoint : String) : Bool :=
  "http://".toList.isPrefixOf endpoint.toList || "https://".toList.isPrefixOf endpoint.toList

def dropSlashes (cs : List Char) : List Char := cs.dropWhile (· == '/')

/-- The URL of an endpoint: a relative one stands below the base URL, with one slash between. -/
def url (c : Client) (endpoint : String) : String :=
  match c.baseUrl with
  | none => endpoint
  | some base =>
    if isAbsolute endpoint then endpoint
    else String.ofList
      ((dropSlashes base.toList.reverse).reverse ++ '/' :: dropSlashes endpoint.toList)

/-- What is said when a request brings no response. -/
def unansweredMessage (normalUrl : String) : String :=
  "error sending request for url (" ++ normalUrl ++ ")"

def faultMessage : Url.Fault → String
  | .unreadable => "builder error"
  | .unreachable normal => "builder error for url (" ++ normal ++ ")"

/-- Sends a request; the error is the message of a request that brought no response. -/
def send (c : Client) (network : Network) (earlier : List Call) (method : Method) (url : String)
    (body : Option String) : Except String (Nat × ByteArray) :=
  match Url.webUrl url with
  | .error fault => .error (faultMessage fault)
  | .ok normal =>
    match network.answer earlier ⟨method, normal, c.authorization, body⟩ with
    | .answered status body => .ok (status, body)
    | .unanswered => .error (unansweredMessage normal)

/-- The document in a body. -/
def document? (body : ByteArray) : Option Json :=
  if body.size = 0 then some .null else (String.fromUTF8? body).bind Json.parse?

/-- The document in a body, or the complaint about it. -/
def document (complaint : ByteArray → String) (body : ByteArray) : Except String Json :=
  match document? body with
  | some v => .ok v
  | none => .error (complaint body)

/-- The answer to a fetch. -/
def fetched (complaint : ByteArray → String) (url : String) (status : Nat) (body : ByteArray) :
    Except TransportError Json :=
  if !isSuccess status then .error (.status url status)
  else (document complaint body).mapError (fun m => TransportError.decode url (.malformed m))

/-- The messages of a rejected post. -/
def rejection (url : String) (status : Nat) (body : ByteArray) : ErrorSet :=
  match (document? body).bind ErrorSet.ofBody? with
  | some errors => errors
  | none => ErrorSet.single "err" ("HTTP error " ++ statusText status ++ ": " ++ url)

/-- The answer to a post. -/
def posted (complaint : ByteArray → String) (url : String) (status : Nat) (body : ByteArray) :
    Except ErrorSet Json :=
  if !isSuccess status then .error (rejection url status body)
  else (document complaint body).mapError (ErrorSet.single "err")

/-- The transport of a client over a network. -/
def transport (c : Client) (network : Network) : Transport where
  get earlier endpoint :=
    let url := c.url endpoint
    match c.send network earlier .get url none with
    | .error message => .error (.request url message)
    | .ok (status, body) => fetched network.complaint url status body
  post earlier endpoint payload :=
    let url := c.url endpoint
    match c.send network earlier .post url (some payload.compact) with
    | .error message => .error (ErrorSet.single "err" message)
    | .ok (status, body) => posted network.complaint url status body

end Client

end UiSchema.Http
