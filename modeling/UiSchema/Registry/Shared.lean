import UiSchema.Registry.Basic

/-!
# The shared registry

A slot for one registry that a whole program uses: it is set up once, and only a reset empties it.
-/

set_option autoImplicit false

namespace UiSchema

structure SharedRegistry where
  current : Option Registry := none

namespace SharedRegistry

def isInitialized (s : SharedRegistry) : Bool := s.current.isSome

/-- Sets up a registry over a component map, unless there is one already. -/
def start (s : SharedRegistry) (m : ComponentMap) : Except RegistryError SharedRegistry :=
  match s.current with
  | some _ => .error .alreadyInitialized
  | none => .ok ⟨some { components := m }⟩

def reset (_ : SharedRegistry) : SharedRegistry := {}

/-- Registers a node, and gives the failure if there is one. -/
def register (s : SharedRegistry) (n : Node) :
    Option RegistryError × List Notice × SharedRegistry :=
  match s.current with
  | none => (some .notInitialized, [], s)
  | some r =>
    let result := r.register n
    (result.failure, result.notices, ⟨some result.registry⟩)

/-- Reads something from the registry. -/
def read {α : Type} (s : SharedRegistry) (f : Registry → α) : Except RegistryError α :=
  match s.current with
  | none => .error .notInitialized
  | some r => .ok (f r)

end SharedRegistry

end UiSchema
