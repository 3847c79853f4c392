import UiSchema.Node.Basic

/-!
# Inline style

Hints become style properties by name. A hint that is absent, zero or empty gives
nothing, except the opacity, which counts whenever it is present; custom styles are copied as they
are and stand over the rest.
-/

set_option autoImplicit false

namespace UiSchema

/-- Style properties by name. -/
abbrev Style := Dict Json

namespace Style

def borderLine : String := "1px solid #d9d9d9"

def shadowLine : String := "0 2px 8px rgba(0,0,0,0.1)"

/-- A property with a text that is not empty. -/
def textEntry (name : String) (text : Option String) : List (String × Json) :=
  ((text.filter (· != "")).map (fun s => (name, Json.str s))).toList

def valueEntry (name : String) (value : Option CssValue) : List (String × Json) :=
  ((value.filter CssValue.isSet).map (fun v => (name, v.toJson))).toList

/-- A property with a fixed text, when a flag is set. -/
def flagEntry (name text : String) (flag : Option Bool) : List (String × Json) :=
  if flag = some true then [(name, .str text)] else []

def layoutEntries (h : LayoutHints) : List (String × Json) :=
  textEntry "display" h.display ++ valueEntry "margin" h.spacing ++
    valueEntry "padding" h.spacing ++ textEntry "textAlign" h.alignment

def displayEntries (h : DisplayHints) : List (String × Json) :=
  flagEntry "border" borderLine h.showBorder ++ flagEntry "boxShadow" shadowLine h.showShadow ++
    textEntry "backgroundColor" h.backgroundColor ++ textEntry "color" h.textColor ++
    valueEntry "borderRadius" h.borderRadius ++
    (h.opacity.map (fun x => ("opacity", Json.float x))).toList

/-- The style of layout hints, display hints and custom styles. -/
def ofHints (layout : Option LayoutHints) (display : Option DisplayHints) (custom : Dict CssValue) :
    Style :=
  Dict.ofList (((layout.map layoutEntries).getD []) ++ ((display.map displayEntries).getD []) ++
    Dict.mapValues CssValue.toJson custom)

end Style

/-- The style that a wrapper gives on a viewport. -/
def Wrapper.style {ν : Type} (w : Wrapper ν) (v : Option Viewport) : Style :=
  Style.ofHints (w.effectiveLayout v) (w.effectiveDisplay v) w.customStyles

end UiSchema
