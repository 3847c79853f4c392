import UiSchema.JsonSchema.Basic

/-!
# The types of the documents

What the documents of this library look like: configurations, pages, nodes, forms and tables.
-/

set_option autoImplicit false

namespace UiSchema.JsonSchema

def Field.about (f : Field) (description : String) : Field :=
  { f with description := some description }

def Field.or (f : Field) (fallback : Json) : Field := { f with fallback := some fallback }

def required (name : String) (shape : Shape) : Field :=
  { name := name, shape := shape, required := true }

def always (name : String) (shape : Shape) : Field := { name := name, shape := shape }

def optional (name : String) (shape : Shape) : Field := { name := name, shape := .nullable shape }

def optionalText (name : String) : Field := optional name .text

def apiConfig : TypeSchema where
  name := "ApiConfig"
  description := some "Remote API settings."
  definition := .record false [
    (optionalText "base_url").about "Prefix for relative endpoint paths." |>.or .null,
    (optionalText "token").about "Sent as \x60Authorization: Token <token>\x60." |>.or .null]

def lookupConfig : TypeSchema where
  name := "LookupConfig"
  description := some "Lookup field settings."
  definition := .record false [
    (always "debounce_ms" (.integer "uint64" true)).about
      "Debounce window for lookup searches, in milliseconds." |>.or (.int 300)]

def appConfig : TypeSchema where
  name := "AppConfig"
  description := some "Root configuration structure."
  definition := .record false [
    (always "api" (.named "ApiConfig")).about
      "Remote API used for form submits, lookups and table searches."
      |>.or (.obj [("base_url", .null), ("token", .null)]),
    (always "lookup" (.named "LookupConfig")).about "Lookup field behaviour."
      |>.or (.obj [("debounce_ms", .int 300)]),
    (always "components" (.list .text)).about
      "Component names bound to the passthrough renderer, in addition to the\nbuilt-in set."
      |>.or (.arr []),
    (always "aliases" (.map .text)).about
      "Extra names bound to the renderer of an existing component." |>.or (.obj []),
    (optional "viewport" (.named "Viewport")).about
      "Viewport used to evaluate responsive hints." |>.or .null]

def viewport : TypeSchema where
  name := "Viewport"
  description := some "Screen size class used for responsive hints."
  definition := .choice ["mobile", "tablet", "desktop"]

def formSchema : TypeSchema where
  name := "FormSchema"
  description := some "A form: its fields and the endpoint values are posted to."
  definition := .record false [
    required "fields" (.list (.named "FieldSchema")),
    (always "action" .text).or (.str ""),
    optional "dispatch" (.named "Dispatch")]

def dispatch : TypeSchema where
  name := "Dispatch"
  definition := .record false [optional "onSuccessRedirectTo" (.named "RedirectTarget")]

def redirectTarget : TypeSchema where
  name := "RedirectTarget"
  description := some "Where to go after a successful submission."
  definition := .record false [
    (required "component" .text).about "Registered component whose path is used as the template.",
    (optionalText "payloadNamePath").about
      "Dot-path into the response used as the parameter source."]

def fieldSchema : TypeSchema where
  name := "FieldSchema"
  description := some "Declarative description of one form or detail field."
  definition := .record false [
    (required "name" .text).about "Field name, addressable by dot-path inside nested groups.",
    (always "label" .text).or (.str ""),
    (always "inputType" (.named "InputKind")).or (.str "input"),
    (always "required" .flag).or (.bool false),
    (optional "order" .number).about "Sort key, \x600\x60 when absent.",
    (optional "properties" .properties).about "Kind specific configuration.",
    (always "value" .anything).about "Initial value."]

def inputKind : TypeSchema where
  name := "InputKind"
  description := some "Input widget kind of a form field."
  definition := .describedChoice
    ["input", "password", "number", "select", "treeselect", "switch", "date", "textarea",
      "checkbox", "nestedcheckbox", "lookup", "button"]
    [("object", "Nested group, fields under \x60properties.fields\x60."),
      ("object[]", "Repeated group, item fields under \x60properties.itemFields\x60.")]

def tableSchema : TypeSchema where
  name := "TableSchema"
  description := some "A remotely searched table."
  definition := .record false [
    (required "dataSourceUrl" .text).about "Endpoint the search query is posted to.",
    required "columns" (.list (.named "ColumnSchema")),
    (always "rowKey" .text).or (.str "id")]

def columnSchema : TypeSchema where
  name := "ColumnSchema"
  description := some "One table column."
  definition := .record false [
    required "dataIndex" .text,
    optionalText "key",
    (always "title" .text).or (.str ""),
    (always "sortable" .flag).or (.bool false),
    always "width" .anything,
    optional "filterable" (.named "Filterable")]

def filterable : TypeSchema where
  name := "Filterable"
  description := some "Filter configuration of a table column."
  definition := .record false [
    (always "apply" .flag).or (.bool false),
    (optional "inputType" (.named "InputKind")).about
      "Widget used in the search form, \x60input\x60 when absent.",
    (optionalText "searchFieldKey").about "Remote field name, \x60dataIndex\x60 when absent.",
    (optionalText "operator").about "Comparison operator, \x60eq\x60 when absent."]

def uiNode : TypeSchema where
  name := "UiNode"
  description := some "Any node accepted by the composition engine."
  definition := .union [
    (some "Presentation wrapper around a nested node.", .named "RendererConfig"),
    (some "\x60component\x60 + \x60meta\x60 encoding.", .named "LegacyDescriptor"),
    (some "Canonical descriptor.", .named "ComponentDescriptor")]

def componentDescriptor : TypeSchema where
  name := "ComponentDescriptor"
  description := some ("A node in the UI tree.\n\nBoth \x60name\x60/\x60properties\x60 and the older " ++
    "\x60type\x60/\x60props\x60 spellings are accepted\nwhen decoding.")
  definition := .record true [
    (required "name" .text).about "Symbolic component identity.",
    (optionalText "path").about "Optional route key.",
    (always "isMenuItem" .flag).about "Whether the node shows up in menus." |>.or (.bool false),
    (optionalText "content").about "Literal text payload.",
    (optional "properties" .properties).about "Payload passed to the resolved renderer.",
    (always "children" (.list (.named "UiNode"))).about "Ordered child nodes."]

def legacyDescriptor : TypeSchema where
  name := "LegacyDescriptor"
  description := some ("Legacy encoding where the identity lives in \x60component\x60 and the " ++
    "payload in \x60meta\x60.")
  definition := .record true [
    required "component" .text,
    optionalText "path",
    (always "isMenuItem" .flag).or (.bool false),
    optionalText "content",
    optional "meta" (.named "LegacyMeta"),
    always "children" (.list (.named "UiNode"))]

def legacyMeta : TypeSchema where
  name := "LegacyMeta"
  description := some ("Metadata block of the legacy \x60component\x60 + \x60meta\x60 encoding.")
  definition := .record true [
    (optionalText "component").about "Fallback component name.",
    (optional "properties" .properties).about "Renderer properties."]

def rendererConfig : TypeSchema where
  name := "RendererConfig"
  description := some ("Presentation wrapper around a nested node.\n\nOnly the layout, display, " ++
    "responsive and accessibility hints are\ninterpreted; \x60interaction\x60 and " ++
    "\x60animation\x60 are carried for external\nrenderers.")
  definition := .record true [
    (required "componentDetail" (.named "UiNode")).about "Wrapped node.",
    (optionalText "mode").about
      "Rendering mode such as \x60default\x60, \x60compact\x60 or \x60card\x60.",
    optional "layout" (.named "LayoutHints"),
    optional "interaction" (.named "InteractionHints"),
    optional "display" (.named "DisplayHints"),
    optional "responsive" (.named "ResponsiveHints"),
    always "animation" .anything,
    always "cssClasses" (.list .text),
    (always "customStyles" (.map (.named "CssValue"))).about
      "Inline style overrides, applied last.",
    optional "accessibility" (.named "AccessibilityHints")]

def layoutHints : TypeSchema where
  name := "LayoutHints"
  definition := .record true [
    (optionalText "display").about
      "\x60block\x60, \x60inline\x60, \x60flex\x60, \x60grid\x60, ...",
    optional "columns" (.integer "uint32" true),
    optional "spacing" (.named "CssValue"),
    (optionalText "alignment").about
      "\x60left\x60, \x60center\x60, \x60right\x60 or \x60justify\x60."]

def interactionHints : TypeSchema where
  name := "InteractionHints"
  definition := .record true [
    optional "clickable" .flag, optional "hoverable" .flag, optional "draggable" .flag,
    optional "keyboardNavigable" .flag]

def displayHints : TypeSchema where
  name := "DisplayHints"
  definition := .record true [
    optional "showBorder" .flag,
    optional "showShadow" .flag,
    optionalText "backgroundColor",
    optionalText "textColor",
    optional "borderRadius" (.named "CssValue"),
    (optional "opacity" .number).about "Opacity level between 0 and 1."]

def breakpointOverride : TypeSchema where
  name := "BreakpointOverride"
  description := some "Per-viewport override of layout and display hints."
  definition := .record false [
    optional "layout" (.named "LayoutHints"), optional "display" (.named "DisplayHints")]

def breakpoints : TypeSchema where
  name := "Breakpoints"
  definition := .record true [
    optional "mobile" (.named "BreakpointOverride"),
    optional "tablet" (.named "BreakpointOverride"),
    optional "desktop" (.named "BreakpointOverride")]

def responsiveHints : TypeSchema where
  name := "ResponsiveHints"
  definition := .record true [
    optional "breakpoints" (.named "Breakpoints"), always "hiddenOn" (.list (.named "Viewport"))]

def accessibilityHints : TypeSchema where
  name := "AccessibilityHints"
  definition := .record true [
    optionalText "role", optionalText "ariaLabel", optionalText "ariaDescription",
    optional "tabIndex" (.integer "int32" false)]

def cssValue : TypeSchema where
  name := "CssValue"
  description := some "A CSS length or keyword: either a number or a string."
  definition := .union [(none, .number), (none, .text)]

def layoutDocument : TypeSchema where
  name := "LayoutDocument"
  description := some "Page layout with optional header, sider and footer around a content node."
  definition := .record true [
    (required "type" .text).about
      "Layout flavour, passed to the root node as \x60properties.type\x60.",
    optional "header" (.named "LayoutSlot"),
    required "content" (.named "ContentSlot"),
    optional "sider" (.named "LayoutSlot"),
    optional "footer" (.named "LayoutSlot")]

def layoutSlot : TypeSchema where
  name := "LayoutSlot"
  description := some "One region of a layout document."
  definition := .record true [optional "meta" (.named "UiNode")]

def contentSlot : TypeSchema where
  name := "ContentSlot"
  description := some "Content region, which must carry a node."
  definition := .record true [required "meta" (.named "UiNode")]

def types : List TypeSchema := [
  apiConfig, lookupConfig, appConfig, viewport, formSchema, dispatch, redirectTarget, fieldSchema,
  inputKind, tableSchema, columnSchema, filterable, uiNode, componentDescriptor, legacyDescriptor,
  legacyMeta, rendererConfig, layoutHints, interactionHints, displayHints, breakpointOverride,
  breakpoints, responsiveHints, accessibilityHints, cssValue, layoutDocument, layoutSlot,
  contentSlot]

/-- The kinds of documents. -/
inductive DocumentKind where
  | config
  | layout
  | node
  | form
  | table
deriving DecidableEq

namespace DocumentKind

def ofName? : String → Option DocumentKind
  | "config" => some config
  | "layout" => some layout
  | "node" => some node
  | "form" => some form
  | "table" => some table
  | _ => none

def root : DocumentKind → TypeSchema
  | config => appConfig
  | layout => layoutDocument
  | node => uiNode
  | form => formSchema
  | table => tableSchema

/-- The schema document of a kind of documents. -/
def schema (k : DocumentKind) : Json := document types k.root

end DocumentKind

end UiSchema.JsonSchema
