import UiSchema.Command.Console
import UiSchema.Compose.Basic
import UiSchema.JsonSchema.Types
import UiSchema.Registry.BuiltIn

/-!
# Reports on documents

The commands that show what a document comes to: a page composed for a viewport with its routes and
menu, and the schema of a kind of documents.
-/

set_option autoImplicit false

namespace UiSchema.Command

/-- Sets up the shared registry over the component map of a workspace. -/
def startRegistry (w : Workspace) (shared : SharedRegistry) : Command SharedRegistry := do
  notify w.config.componentNotices
  print ("Registering " ++ naturalText w.config.componentMap.size ++ " component renderers")
  orFail .registry (shared.start w.config.componentMap)

/-- Registers a node in the shared registry. -/
def registerShared (shared : SharedRegistry) (n : Node) : Command SharedRegistry := do
  let (failure, notices, shared) := shared.register n
  notify notices
  match failure with
  | some e => throw (.registry e)
  | none => return shared

/-- A composed tree with the routes and the menu of the registry it was composed against. -/
structure RenderReport where
  tree : ComposedNode
  routes : List (String × String)
  menu : List String

def RenderReport.of (r : Registry) (root : Node) (viewport : Option Viewport) : RenderReport where
  tree := ({ registry := r, viewport := viewport } : Composer).compose root
  routes := r.routes.map (fun p => (p.1, p.2.name))
  menu := r.menuItems.map (·.name)

structure RenderArguments where
  file : String
  viewport : Option Viewport := none

/-- Composes a page and prints it with its routes and menu. -/
def render (env : Environment) (w : Workspace) (a : RenderArguments) : Command Unit := do
  let root ← orFail .load (env.files.loadRoot (w.resolve a.file))
  let shared ← startRegistry w {}
  let shared ← registerShared shared root
  let viewport := a.viewport.or w.config.viewport
  let report ← orFail .registry (shared.read (fun r => RenderReport.of r root viewport))
  notify report.tree.notices
  printJson report.tree.toJson
  printList "Routes" (report.routes.map (fun p => p.1 ++ " -> " ++ p.2))
  printList "Menu" report.menu

/-- Prints the schema of a kind of documents. -/
def schema (kind : JsonSchema.DocumentKind) : Command Unit := printJson kind.schema

end UiSchema.Command
