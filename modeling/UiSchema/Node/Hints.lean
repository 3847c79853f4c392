import UiSchema.Decode.Record
import UiSchema.Viewport

/-!
# Presentation hints

What a wrapper may say about the node inside it. Layout and display hints can be overridden for a
viewport; `overlay` lets every hint that the override gives replace the one below it.
-/

set_option autoImplicit false

namespace UiSchema

/-- A length or keyword. -/
inductive CssValue where
  | number (x : Binary64)
  | text (s : String)

namespace CssValue

def toJson : CssValue → Json
  | .number x => .float x
  | .text s => .str s

/-- Zero and the empty text count as unset. -/
def isSet : CssValue → Bool
  | .number x => !x.sameValue .zero
  | .text s => s != ""

def codec : Codec CssValue where
  decode
    | .str s => .ok (.text s)
    | v => match v.number? with
      | some x => .ok (.number x)
      | none => .error (.noAlternative "CssValue")
  encode := toJson

end CssValue

structure LayoutHints where
  display : Option String := none
  columns : Option Nat := none
  spacing : Option CssValue := none
  alignment : Option String := none

namespace LayoutHints

def overlay (base top : LayoutHints) : LayoutHints where
  display := top.display.or base.display
  columns := top.columns.or base.columns
  spacing := top.spacing.or base.spacing
  alignment := top.alignment.or base.alignment

def record : Record LayoutHints where
  name := "LayoutHints"
  exact := true
  fields := [
    .optional "display" .text (fun a s => { s with display := a }) (·.display),
    .optional "columns" (.natural 32) (fun a s => { s with columns := a }) (·.columns),
    .optional "spacing" CssValue.codec (fun a s => { s with spacing := a }) (·.spacing),
    .optional "alignment" .text (fun a s => { s with alignment := a }) (·.alignment)]
  initial := {}

end LayoutHints

structure InteractionHints where
  clickable : Option Bool := none
  hoverable : Option Bool := none
  draggable : Option Bool := none
  keyboardNavigable : Option Bool := none

def InteractionHints.record : Record InteractionHints where
  name := "InteractionHints"
  exact := true
  fields := [
    .optional "clickable" .bool (fun a s => { s with clickable := a }) (·.clickable),
    .optional "hoverable" .bool (fun a s => { s with hoverable := a }) (·.hoverable),
    .optional "draggable" .bool (fun a s => { s with draggable := a }) (·.draggable),
    .optional "keyboardNavigable" .bool (fun a s => { s with keyboardNavigable := a })
      (·.keyboardNavigable)]
  initial := {}

structure DisplayHints where
  showBorder : Option Bool := none
  showShadow : Option Bool := none
  backgroundColor : Option String := none
  textColor : Option String := none
  borderRadius : Option CssValue := none
  opacity : Option Binary64 := none

namespace DisplayHints

def overlay (base top : DisplayHints) : DisplayHints where
  showBorder := top.showBorder.or base.showBorder
  showShadow := top.showShadow.or base.showShadow
  backgroundColor := top.backgroundColor.or base.backgroundColor
  textColor := top.textColor.or base.textColor
  borderRadius := top.borderRadius.or base.borderRadius
  opacity := top.opacity.or base.opacity

def record : Record DisplayHints where
  name := "DisplayHints"
  exact := true
  fields := [
    .optional "showBorder" .bool (fun a s => { s with showBorder := a }) (·.showBorder),
    .optional "showShadow" .bool (fun a s => { s with showShadow := a }) (·.showShadow),
    .optional "backgroundColor" .text (fun a s => { s with backgroundColor := a })
      (·.backgroundColor),
    .optional "textColor" .text (fun a s => { s with textColor := a }) (·.textColor),
    .optional "borderRadius" CssValue.codec (fun a s => { s with borderRadius := a })
      (·.borderRadius),
    .optional "opacity" .number (fun a s => { s with opacity := a }) (·.opacity)]
  initial := {}

end DisplayHints

/-- Hints that replace others on one viewport. -/
structure HintOverride where
  layout : Option LayoutHints := none
  display : Option DisplayHints := none

/-- Keys that an override does not know are ignored. -/
def HintOverride.record : Record HintOverride where
  name := "BreakpointOverride"
  exact := false
  fields := [
    .optional "layout" LayoutHints.record.codec (fun a s => { s with layout := a }) (·.layout),
    .optional "display" DisplayHints.record.codec (fun a s => { s with display := a }) (·.display)]
  initial := {}

structure Breakpoints where
  mobile : Option HintOverride := none
  tablet : Option HintOverride := none
  desktop : Option HintOverride := none

namespace Breakpoints

def at? (b : Breakpoints) : Viewport → Option HintOverride
  | .mobile => b.mobile
  | .tablet => b.tablet
  | .desktop => b.desktop

def record : Record Breakpoints where
  name := "Breakpoints"
  exact := true
  fields := [
    .optional "mobile" HintOverride.record.codec (fun a s => { s with mobile := a }) (·.mobile),
    .optional "tablet" HintOverride.record.codec (fun a s => { s with tablet := a }) (·.tablet),
    .optional "desktop" HintOverride.record.codec (fun a s => { s with desktop := a }) (·.desktop)]
  initial := {}

end Breakpoints

structure ResponsiveHints where
  breakpoints : Option Breakpoints := none
  hiddenOn : List Viewport := []

def ResponsiveHints.record : Record ResponsiveHints where
  name := "ResponsiveHints"
  exact := true
  fields := [
    .optional "breakpoints" Breakpoints.record.codec (fun a s => { s with breakpoints := a })
      (·.breakpoints),
    .unlessEmpty "hiddenOn" (.list Viewport.codec) (fun a s => { s with hiddenOn := a })
      (·.hiddenOn)]
  initial := {}

structure AccessibilityHints where
  role : Option String := none
  ariaLabel : Option String := none
  ariaDescription : Option String := none
  tabIndex : Option Int := none

def AccessibilityHints.record : Record AccessibilityHints where
  name := "AccessibilityHints"
  exact := true
  fields := [
    .optional "role" .text (fun a s => { s with role := a }) (·.role),
    .optional "ariaLabel" .text (fun a s => { s with ariaLabel := a }) (·.ariaLabel),
    .optional "ariaDescription" .text (fun a s => { s with ariaDescription := a })
      (·.ariaDescription),
    .optional "tabIndex" .int32 (fun a s => { s with tabIndex := a }) (·.tabIndex)]
  initial := {}

end UiSchema
