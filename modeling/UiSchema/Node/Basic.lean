import UiSchema.Node.Hints

/-!
# Nodes

A node of the component tree comes in three encodings: a descriptor, an older encoding with the
identity in `component` and the payload in `meta`, and a wrapper that puts presentation hints around
another node. The three shapes are parametric in the type of the nodes inside them. `canonical`
gives the descriptor that a node stands for; wrappers are left out and older nodes normalised.
-/

set_option autoImplicit false

namespace UiSchema

/-- The payload that is handed to a renderer. -/
abbrev Properties := Dict Json

structure Descriptor (ν : Type) where
  name : String := ""
  path : Option String := none
  isMenuItem : Bool := false
  content : Option String := none
  properties : Option Properties := none
  children : List ν := []

namespace Descriptor

variable {ν : Type}

def ofName (name : String) : Descriptor ν := { name := name }

def withPath (d : Descriptor ν) (path : String) : Descriptor ν := { d with path := some path }

def withMenuItem (d : Descriptor ν) (flag : Bool) : Descriptor ν := { d with isMenuItem := flag }

def withContent (d : Descriptor ν) (text : String) : Descriptor ν := { d with content := some text }

def withProperties (d : Descriptor ν) (properties : Properties) : Descriptor ν :=
  { d with properties := some properties }

def withChild (d : Descriptor ν) (child : ν) : Descriptor ν :=
  { d with children := d.children ++ [child] }

def property? (d : Descriptor ν) (key : String) : Option Json :=
  d.properties.bind (fun p => Dict.get? p key)

/-- The component that is tried when the name is not bound. -/
def alias? (d : Descriptor ν) : Option String := do
  let info ← d.property? "meta"
  let component ← info.field? "component"
  component.string?

end Descriptor

structure LegacyMeta where
  component : Option String := none
  properties : Option Properties := none

structure LegacyNode (ν : Type) where
  component : String := ""
  path : Option String := none
  isMenuItem : Bool := false
  content : Option String := none
  info : Option LegacyMeta := none
  children : List ν := []

namespace LegacyMeta

/-- The properties with the alias stored at `meta.component`. An entry `meta` that is no object is
left as it is, and the alias with it. -/
def normalizedProperties (m : LegacyMeta) : Option Properties :=
  match m.component with
  | none => m.properties
  | some component =>
    let properties := m.properties.getD []
    match Dict.get? properties "meta" with
    | none => some (Dict.insert properties "meta" (.obj [("component", .str component)]))
    | some (.obj fields) =>
      some (Dict.insert properties "meta" (.obj (Dict.insert fields "component" (.str component))))
    | some _ => some properties

end LegacyMeta

def LegacyNode.normalize {ν : Type} (n : LegacyNode ν) : Descriptor ν where
  name := n.component
  path := n.path
  isMenuItem := n.isMenuItem
  content := n.content
  properties := (n.info.getD {}).normalizedProperties
  children := n.children

structure Wrapper (ν : Type) where
  detail : ν
  mode : Option String := none
  layout : Option LayoutHints := none
  interaction : Option InteractionHints := none
  display : Option DisplayHints := none
  responsive : Option ResponsiveHints := none
  animation : Option Json := none
  cssClasses : List String := []
  customStyles : Dict CssValue := []
  accessibility : Option AccessibilityHints := none

namespace Wrapper

variable {ν : Type}

/-- A wrapper without hints. -/
def wrap (node : ν) : Wrapper ν := { detail := node }

def hiddenOn (w : Wrapper ν) (v : Viewport) : Bool :=
  match w.responsive with
  | some r => r.hiddenOn.contains v
  | none => false

def overrideFor (w : Wrapper ν) (v : Option Viewport) : HintOverride :=
  (do (← (← w.responsive).breakpoints).at? (← v)).getD {}

/-- The layout hints on a viewport. -/
def effectiveLayout (w : Wrapper ν) (v : Option Viewport) : Option LayoutHints :=
  match (w.overrideFor v).layout with
  | some top => some ((w.layout.getD {}).overlay top)
  | none => w.layout

/-- The display hints on a viewport. -/
def effectiveDisplay (w : Wrapper ν) (v : Option Viewport) : Option DisplayHints :=
  match (w.overrideFor v).display with
  | some top => some ((w.display.getD {}).overlay top)
  | none => w.display

end Wrapper

inductive Node where
  | wrapper (w : Wrapper Node)
  | legacy (n : LegacyNode Node)
  | descriptor (d : Descriptor Node)

namespace Node

instance : Inhabited Node := ⟨.descriptor {}⟩

/-- The descriptor that a node stands for. -/
def canonical : Node → Descriptor Node
  | .wrapper ⟨detail, _, _, _, _, _, _, _, _, _⟩ => canonical detail
  | .legacy n => n.normalize
  | .descriptor d => d

end Node

end UiSchema
