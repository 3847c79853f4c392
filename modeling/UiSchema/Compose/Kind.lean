import UiSchema.Decode.Error
import UiSchema.Json.Basic

/-!
# Kinds of composed nodes

The structural kinds are the regions of a page. A placeholder stands where a node could not be
composed, and carries the reason.
-/

set_option autoImplicit false

namespace UiSchema

inductive StructuralKind where
  | layout
  | header
  | sidebar
  | content
  | footer
deriving DecidableEq

namespace StructuralKind

def name : StructuralKind → String
  | layout => "layout"
  | header => "header"
  | sidebar => "sidebar"
  | content => "content"
  | footer => "footer"

/-- The kind of a name; a sidebar has two. -/
def ofName? : String → Option StructuralKind
  | "layout" => some layout
  | "header" => some header
  | "sidebar" => some sidebar
  | "sider" => some sidebar
  | "content" => some content
  | "footer" => some footer
  | _ => none

end StructuralKind

/-- Why a node could not be composed. -/
inductive PlaceholderReason where
  | unknownComponent
  | noForm
  | noTable
  | formShape (cause : DecodeError)
  | formFields (cause : SchemaError)
  | tableColumns (cause : DecodeError)

namespace PlaceholderReason

/-- The text shown in place of the node. -/
def message : PlaceholderReason → String
  | unknownComponent => "Unknown component"
  | noForm => "No form configuration provided"
  | noTable => "No table configuration provided"
  | formShape cause => "Invalid form configuration: " ++ cause.message
  | formFields cause => "Invalid form configuration: " ++ cause.message
  | tableColumns cause => "Invalid table configuration: " ++ cause.message

end PlaceholderReason

inductive NodeKind where
  | structural (kind : StructuralKind)
  /-- rendered through the registry -/
  | component
  | form
  | table
  | placeholder (reason : PlaceholderReason)
  /-- hidden on the viewport -/
  | hidden

namespace NodeKind

def isPlaceholder : NodeKind → Bool
  | placeholder _ => true
  | _ => false

def toJson : NodeKind → Json
  | structural kind => .obj [("structural", .str kind.name)]
  | component => .str "component"
  | form => .str "form"
  | table => .str "table"
  | placeholder _ => .str "placeholder"
  | hidden => .str "hidden"

end NodeKind

end UiSchema
