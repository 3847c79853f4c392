import UiSchema.Node.Record

/-!
# Layout documents

A page is a content node with optional regions around it. It stands for a `layout` descriptor whose
children are the header, the sider, the content and the footer, and a document root is read as a
page exactly when it has a `type` and an object for its `content`.
-/

set_option autoImplicit false

namespace UiSchema

structure LayoutSlot where
  node : Option Node := none

def LayoutSlot.record : Record LayoutSlot where
  name := "LayoutSlot"
  exact := true
  fields := [.optional "meta" Node.codec (fun a s => { s with node := a }) (·.node)]
  initial := {}

structure ContentSlot where
  node : Node := default

def ContentSlot.record : Record ContentSlot where
  name := "ContentSlot"
  exact := true
  fields := [.mandatory "meta" Node.codec (fun a s => { s with node := a }) (·.node)]
  initial := {}

structure LayoutDocument where
  kind : String := ""
  header : Option LayoutSlot := none
  content : ContentSlot := {}
  sider : Option LayoutSlot := none
  footer : Option LayoutSlot := none

namespace LayoutDocument

def record : Record LayoutDocument where
  name := "LayoutDocument"
  exact := true
  fields := [
    .mandatory "type" .text (fun a s => { s with kind := a }) (·.kind),
    .optional "header" LayoutSlot.record.codec (fun a s => { s with header := a }) (·.header),
    .mandatory "content" ContentSlot.record.codec (fun a s => { s with content := a }) (·.content),
    .optional "sider" LayoutSlot.record.codec (fun a s => { s with sider := a }) (·.sider),
    .optional "footer" LayoutSlot.record.codec (fun a s => { s with footer := a }) (·.footer)]
  initial := {}

/-- The nodes of the regions in page order. -/
def regions (d : LayoutDocument) : List Node :=
  [d.header.bind (·.node), d.sider.bind (·.node), some d.content.node,
    d.footer.bind (·.node)].filterMap id

/-- The descriptor that a page stands for. -/
def root (d : LayoutDocument) : Descriptor Node where
  name := "layout"
  properties := some [("type", .str d.kind)]
  children := d.regions

end LayoutDocument

/-- A value that is to be read as a page. -/
def isLayoutDocument (v : Json) : Bool :=
  (v.field? "type").isSome &&
    match v.field? "content" with
    | some (.obj _) => true
    | _ => false

/-- The root node of a document. -/
def decodeRoot (v : Json) : Except SchemaError Node :=
  if isLayoutDocument v then
    ((LayoutDocument.record.decode v).map (fun d => Node.descriptor d.root)).mapError
      (SchemaError.decode "layout")
  else Node.decodeAt "root" v

end UiSchema
