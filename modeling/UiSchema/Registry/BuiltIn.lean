import UiSchema.Config
import UiSchema.Notice
import UiSchema.Registry.Renderer

/-!
# Built-in components

Without renderers of its own a workspace binds every component to one that echoes its name and
properties, so that a composed tree can be read as a document. Aliases are bound in ascending order
of their names, each to what its target is bound to by then.
-/

set_option autoImplicit false

namespace UiSchema

namespace ComponentMap

def builtInNames : List String :=
  ["layout", "header", "sidebar", "sider", "content", "footer",
    "form", "table", "detail", "charts", "div", "button", "search", "switch", "badge", "dropdown",
    "avatar", "menu", "title", "card", "text", "link",
    "ChartRenderer", "DetailRenderer", "FormRenderer", "TableRenderer", "TabRenderer",
    "PopupRenderer", "WrapperRenderer"]

/-- The output that names the component and shows its properties. -/
def echo (name : String) (properties : Properties) : Json :=
  .obj [("component", .str name), ("props", .obj properties)]

/-- Binds names to renderers that echo them. -/
def bindEchoes (m : ComponentMap) (names : List String) : ComponentMap :=
  names.foldl (fun m name => m.bind name (echo name)) m

/-- Binds a name to the renderer of another, if that one is bound. -/
def bindAlias (m : ComponentMap) (name target : String) : ComponentMap :=
  match m.get? target with
  | some r => m.share name r
  | none => m

def bindAliases (m : ComponentMap) : Dict String → ComponentMap
  | [] => m
  | (name, target) :: rest => bindAliases (m.bindAlias name target) rest

/-- What is said of aliases whose target is not bound when it is their turn. -/
def aliasNotices (m : ComponentMap) : Dict String → List Notice
  | [] => []
  | (name, target) :: rest =>
    let own := if m.contains target then []
      else [Notice.warning ("alias '" ++ name ++ "' points at unknown component '" ++ target ++ "'")]
    own ++ aliasNotices (m.bindAlias name target) rest

end ComponentMap

namespace Config

def echoes (c : Config) : ComponentMap :=
  ComponentMap.bindEchoes {} (ComponentMap.builtInNames ++ c.components)

/-- The component map of a configuration. -/
def componentMap (c : Config) : ComponentMap := c.echoes.bindAliases c.aliases

def componentNotices (c : Config) : List Notice := c.echoes.aliasNotices c.aliases

end Config

end UiSchema
