import UiSchema.Unicode.Direction
import UiSchema.Unicode.Joining
import UiSchema.Unicode.Mapping
import UiSchema.Unicode.Mark
import UiSchema.Url.Punycode

/-!
# Domain names

The ASCII form of a domain name. Its characters are mapped and composed first, so that names that
compare equal have one form; a label that then holds characters beyond ASCII is written in Punycode
behind `xn--`, and one that is written so already has to be the form of such a label.
-/

set_option autoImplicit false

namespace UiSchema.Url

/-- Characters that would end or confuse a host. -/
def isDenied (c : Nat) : Bool :=
  decide (c ≤ 32) || c == 127 || "%#/:<>?@[\\]^|".toList.any (fun d => d.toNat == c)

/-- A name with its characters mapped and composed; nothing if one of them is refused. Of ASCII names
only the letters change, to lower case. -/
def mapName? (name : List Nat) : Option (List Nat) :=
  if name.all Unicode.isAscii then some (name.map (fun c => (Char.ofNat c).toLower.toNat))
  else (name.mapM Unicode.map?).map (fun parts => Unicode.compose parts.flatten)

/-- What stands in front of a label in Punycode. -/
def punycodeSign : List Char := "xn--".toList

/-- Labels of more characters are not taken out of Punycode. -/
def maxWritten : Nat := 2000

/-- Labels of more characters are not written in Punycode. -/
def maxUnwritten : Nat := 1000

/-- A label by its characters and as it is written in ASCII. -/
structure Label where
  points : List Nat
  ascii : List Char

namespace Label

/-- The label that is written in Punycode, without the sign. -/
def ofPunycode? (code : List Char) : Option Label :=
  if code.isEmpty || code.getLast? == some '-' || decide (maxWritten < code.length) then none
  else do
    let text ← Punycode.decode code
    let points := text.map Char.toNat
    if mapName? points == some points then some ⟨points, punycodeSign ++ code⟩ else none

def ofMapped? (label : List Char) : Option Label :=
  match Text.dropWord? punycodeSign label with
  | some code => ofPunycode? code
  | none =>
    let points := label.map Char.toNat
    if label.all Punycode.isBasic then some ⟨points, label⟩
    else if maxUnwritten < label.length then none
    else some ⟨points, punycodeSign ++ Punycode.encode label⟩

/-- Whether each character may stand where it stands. -/
def isSound (l : Label) : Bool :=
  !l.points.any isDenied && !(l.points.head?.any Unicode.isMark) &&
    Unicode.joinersInPlace [] l.points

end Label

/-- Whether the direction of a name is no question, or all of its labels keep theirs. -/
def keepsDirection (labels : List Label) : Bool :=
  labels.all (fun l => !l.points.any Unicode.isRightward) ||
    labels.all (fun l => Unicode.keepsDirection l.points)

/-- The ASCII form of a domain name. -/
def asciiDomain? (domain : String) : Option (List Char) := do
  let mapped ← mapName? (domain.toList.map Char.toNat)
  let labels ← (Text.pieces '.' (mapped.map Char.ofNat)).mapM Label.ofMapped?
  if labels.all Label.isSound && keepsDirection labels then
    some (Text.join '.' (labels.map Label.ascii))
  else none

end UiSchema.Url
