import UiSchema.Notice
import UiSchema.Registry.Renderer
import UiSchema.Text.Quoted

/-!
# Component registry

Registering a descriptor binds its name to a renderer: the one the component map has for the name,
else for the alias that the descriptor declares. The children are registered after their parent, in
order, and the first descriptor without a renderer stops the walk. A later registration of a name
replaces its entry; the history keeps all descriptors, and menus and routes are read from it.
-/

set_option autoImplicit false

namespace UiSchema

inductive RegistryError where
  | unresolved (name : String) (alternative : Option String)
  | alreadyInitialized
  | notInitialized
deriving DecidableEq

def RegistryError.message : RegistryError → String
  | .unresolved name alternative =>
    "component '" ++ name ++ "' not found in component map (fallback: " ++
      alternative.getD "<none>" ++ ")"
  | .alreadyInitialized => "component registry is already initialized"
  | .notInitialized => "component registry is not initialized"

structure RegistryEntry where
  name : String
  path : Option String
  isMenuItem : Bool
  content : Option String
  properties : Option Properties
  renderer : Renderer

structure Registry where
  components : ComponentMap
  entries : Dict RegistryEntry := []
  /-- every registered descriptor, oldest first -/
  history : List (Descriptor Node) := []

/-- What came of a registration. After a failure the registry holds what was registered before it. -/
structure Registration where
  registry : Registry
  notices : List Notice := []
  failure : Option RegistryError := none

namespace Registry

/-- The renderer of a descriptor's name, else of its alias. -/
def renderer? (m : ComponentMap) (d : Descriptor Node) : Option Renderer :=
  (m.get? d.name).or (d.alias?.bind m.get?)

def entryOf (d : Descriptor Node) (r : Renderer) : RegistryEntry :=
  ⟨d.name, d.path, d.isMenuItem, d.content, d.properties, r⟩

def optionText : Option String → String
  | none => "None"
  | some s => "Some(" ++ Text.quoted s ++ ")"

/-- What is said of a descriptor whose own name is not bound. -/
def unboundNotices (m : ComponentMap) (d : Descriptor Node) : List Notice :=
  if m.contains d.name then []
  else [.failure ("Component '" ++ d.name ++ "' not found in component map, trying meta component " ++
    optionText d.alias?)]

/-- Registers a descriptor without its children. -/
def record (r : Registry) (d : Descriptor Node) : Registration :=
  let notices := unboundNotices r.components d
  match renderer? r.components d with
  | none => ⟨r, notices, some (.unresolved d.name d.alias?)⟩
  | some renderer =>
    { registry := { r with
        entries := Dict.insert r.entries d.name (entryOf d renderer)
        history := r.history ++ [d] }
      notices := notices }

/-- Goes on with the next registration unless this one failed. -/
def andThen (first : Registration) (next : Registry → Registration) : Registration :=
  match first.failure with
  | some _ => first
  | none =>
    let second := next first.registry
    { second with notices := first.notices ++ second.notices }

mutual

/-- Registers a node and the nodes below it. -/
def register (r : Registry) : Node → Registration
  | .wrapper ⟨detail, _, _, _, _, _, _, _, _, _⟩ => register r detail
  | .legacy ⟨component, path, isMenuItem, content, info, children⟩ =>
    andThen (record r (LegacyNode.normalize ⟨component, path, isMenuItem, content, info, children⟩))
      (fun r => registerAll r children)
  | .descriptor ⟨name, path, isMenuItem, content, properties, children⟩ =>
    andThen (record r ⟨name, path, isMenuItem, content, properties, children⟩)
      (fun r => registerAll r children)

def registerAll (r : Registry) : List Node → Registration
  | [] => { registry := r }
  | n :: rest => andThen (register r n) (fun r => registerAll r rest)

end

/-- The marker for a name without a path. -/
def notFound : String := "notFound"

def resolve? (r : Registry) (name : String) : Option RegistryEntry := Dict.get? r.entries name

def contains (r : Registry) (name : String) : Bool := Dict.contains r.entries name

/-- The path of the latest registration of a name, or the marker. -/
def pathOf (r : Registry) (name : String) : String :=
  ((r.resolve? name).bind (·.path)).getD notFound

def propertiesOf? (r : Registry) (name : String) : Option Properties :=
  (r.resolve? name).bind (·.properties)

/-- Renders a descriptor with the entry of its name; `extra` stands over its properties. -/
def render? (r : Registry) (d : Descriptor Node) (extra : Properties) : Option RenderedNode :=
  (r.resolve? d.name).map (fun e =>
    ⟨e.name, e.renderer.render (Dict.overlay (d.properties.getD []) extra)⟩)

def unregistered (name : String) : Notice :=
  .warning ("Component '" ++ name ++ "' not found in registry")

/-- The renderings of those descriptors that are registered. -/
def renderAll (r : Registry) (ds : List (Descriptor Node)) (extra : Properties) :
    List RenderedNode :=
  ds.filterMap (fun d => r.render? d extra)

/-- What is said when descriptors are rendered. -/
def renderNotices (r : Registry) (ds : List (Descriptor Node)) : List Notice :=
  (ds.filter (fun d => !r.contains d.name)).map (fun d => unregistered d.name)

def menuItems (r : Registry) : List (Descriptor Node) := r.history.filter (·.isMenuItem)

/-- The registered paths with their descriptors. -/
def routes (r : Registry) : List (String × Descriptor Node) :=
  r.history.filterMap (fun d => d.path.map (fun p => (p, d)))

/-- The first registered descriptor with a path. -/
def byPath? (r : Registry) (path : String) : Option (Descriptor Node) :=
  r.history.find? (fun d => d.path == some path)

end Registry

namespace Node

mutual

/-- The descriptors of a tree, each before those below it. -/
def preorder : Node → List (Descriptor Node)
  | .wrapper ⟨detail, _, _, _, _, _, _, _, _, _⟩ => preorder detail
  | .legacy ⟨component, path, isMenuItem, content, info, children⟩ =>
    LegacyNode.normalize ⟨component, path, isMenuItem, content, info, children⟩ ::
      preorderAll children
  | .descriptor ⟨name, path, isMenuItem, content, properties, children⟩ =>
    ⟨name, path, isMenuItem, content, properties, children⟩ :: preorderAll children

def preorderAll : List Node → List (Descriptor Node)
  | [] => []
  | n :: rest => preorder n ++ preorderAll rest

end

end Node

end UiSchema
