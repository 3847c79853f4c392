import UiSchema.Url.Address
import UiSchema.Url.Domain
import UiSchema.Url.Percent

/-!
# Hosts

The host of a URL is an address or a name. The schemes of the web know domain names; for the host of
any other scheme only an address in brackets has a meaning.
-/

set_option autoImplicit false

namespace UiSchema.Url

inductive Host where
  | domain (name : List Char)
  | address32 (address : Nat)
  | address128 (groups : List Nat)
  /-- a name that is written as it stands -/
  | verbatim (name : List Char)

namespace Host

def text : Host → List Char
  | domain name => name
  | address32 address => address32Text address
  | address128 groups => '[' :: address128Text groups ++ [']']
  | verbatim name => name

/-- The address that stands in brackets. -/
def ofBrackets? (inside : List Char) : Option Host :=
  match inside.reverse with
  | ']' :: reversed => (address128? reversed.reverse).map address128
  | _ => none

/-- The host that is meant by a domain name or an address. -/
def ofDomain? (text : List Char) : Option Host :=
  match text with
  | '[' :: inside => ofBrackets? inside
  | _ => do
    let decoded ← decode? text
    let name ← asciiDomain? decoded
    if name.isEmpty then none
    else if endsInNumber name then (address32? name).map address32
    else some (domain name)

def verbatimForbidden : List Char :=
  ['\x00', '\t', '\n', '\r', ' ', '#', '/', ':', '<', '>', '?', '@', '[', '\\', ']', '^', '|']

/-- The host of a scheme that knows no domain names. -/
def ofVerbatim? (text : List Char) : Option Host :=
  match text with
  | '[' :: inside => ofBrackets? inside
  | _ =>
    if text.any verbatimForbidden.contains then none else some (verbatim (encode [] text))

end Host

end UiSchema.Url
