import UiSchema.Decode.Codec

/-!
# Viewports

The screen size classes that responsive hints speak of.
-/

set_option autoImplicit false

namespace UiSchema

inductive Viewport where
  | mobile
  | tablet
  | desktop
deriving DecidableEq

namespace Viewport

def name : Viewport → String
  | mobile => "mobile"
  | tablet => "tablet"
  | desktop => "desktop"

def byName : List (String × Viewport) :=
  [("mobile", mobile), ("tablet", tablet), ("desktop", desktop)]

def codec : Codec Viewport := .variant byName name

def lowerAscii (s : String) : String := String.ofList (s.toList.map Char.toLower)

/-- The viewport of a name in any case of its letters; otherwise the name in lower case. -/
def parse (s : String) : Except String Viewport :=
  match byName.lookup (lowerAscii s) with
  | some v => .ok v
  | none => .error (lowerAscii s)

/-- What is said of a name that is no viewport. -/
def unknownMessage (lowered : String) : String := "unknown viewport: " ++ lowered

end Viewport

end UiSchema
