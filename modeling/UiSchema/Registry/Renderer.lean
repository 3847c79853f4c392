import UiSchema.Node.Basic

/-!
# Renderers and component maps

A renderer turns properties into an opaque output. A component map binds names to renderers; several
names may share one. Every renderer of a map has its own number, so sharing can be told from two
renderers that behave alike.
-/

set_option autoImplicit false

namespace UiSchema

structure Renderer where
  number : Nat
  render : Properties → Json

/-- Bindings by name. The numbers of all renderers are below `fresh`. -/
structure ComponentMap where
  bindings : Dict Renderer := []
  fresh : Nat := 0

namespace ComponentMap

def get? (m : ComponentMap) (name : String) : Option Renderer := Dict.get? m.bindings name

def contains (m : ComponentMap) (name : String) : Bool := Dict.contains m.bindings name

def size (m : ComponentMap) : Nat := m.bindings.length

/-- Binds a name to a renderer of the map. -/
def share (m : ComponentMap) (name : String) (r : Renderer) : ComponentMap :=
  { m with bindings := Dict.insert m.bindings name r }

/-- Binds a name to a new renderer. -/
def bind (m : ComponentMap) (name : String) (render : Properties → Json) : ComponentMap :=
  { m.share name ⟨m.fresh, render⟩ with fresh := m.fresh + 1 }

/-- The bindings of `base`, and those of `top` over them. -/
def overlay (base top : ComponentMap) : ComponentMap where
  bindings := Dict.overlay base.bindings
    (Dict.mapValues (fun r => { r with number := base.fresh + r.number }) top.bindings)
  fresh := base.fresh + top.fresh

/-- Whether two names are bound to one renderer; nothing if one of them is not bound. -/
def shared? (m : ComponentMap) (a b : String) : Option Bool := do
  let r ← m.get? a
  let s ← m.get? b
  some (r.number == s.number)

end ComponentMap

structure RenderedNode where
  component : String
  output : Json

end UiSchema
