import UiSchema.Compose.Kind
import UiSchema.Compose.Style
import UiSchema.Form.Basic
import UiSchema.Registry.Basic
import UiSchema.Table.Column

/-!
# Composition

Composing resolves every node of a tree. Wrappers are taken off, and what they say goes into the
frame of the node inside; a frame's style is inherited by the children, its classes and
accessibility hints are not. The regions of a page only hold their children, forms and tables are
compiled, and all other nodes are rendered through the registry. What cannot be composed becomes a
placeholder without children, so a composition never fails.
-/

set_option autoImplicit false

namespace UiSchema

/-- What a node shows by itself. -/
structure NodeBody where
  kind : NodeKind
  content : Option String := none
  output : Option Json := none
  form : Option CompiledForm := none
  searchFields : List FieldSchema := []

/-- What wrappers say about the node inside them. -/
structure Frame where
  style : Style := []
  cssClasses : List String := []
  accessibility : Option AccessibilityHints := none

/-- A place in a tree: child indices from the root down. -/
abbrev Position := List Nat

namespace Position

/-- The key of a place: the root is `root`, child `i` of `k` is `k.i`. -/
def key (p : Position) : String :=
  String.ofList ("root".toList ++ p.flatMap (fun i => '.' :: Nat.toDigits 10 i))

end Position

inductive ComposedNode where
  | mk (position : Position) (name : String) (body : NodeBody) (frame : Frame)
    (children : List ComposedNode)

namespace NodeBody

def placeholder (reason : PlaceholderReason) : NodeBody where
  kind := .placeholder reason
  content := some reason.message

/-- The properties that hand a style on to a renderer. -/
def styleProperties (style : Style) : Properties :=
  if style.isEmpty then [] else [("style", .obj style)]

def output? (r : Registry) (style : Style) (d : Descriptor Node) : Option Json :=
  (r.render? d (styleProperties style)).map (·.output)

def ofComponent (r : Registry) (style : Style) (d : Descriptor Node) : NodeBody :=
  match output? r style d with
  | some output => { kind := .component, content := d.content, output := some output }
  | none =>
    { kind := .placeholder .unknownComponent
      content := some (d.content.getD PlaceholderReason.unknownComponent.message) }

def ofForm (r : Registry) (style : Style) (d : Descriptor Node) : NodeBody :=
  match d.properties with
  | none => placeholder .noForm
  | some properties =>
    if !Dict.contains properties "fields" then placeholder .noForm
    else
      match FormSchema.record.decode (.obj properties) with
      | .error e => placeholder (.formShape e)
      | .ok schema =>
        match CompiledForm.compile schema none with
        | .error e => placeholder (.formFields e)
        | .ok form =>
          { kind := .form, content := d.content, output := output? r style d, form := some form }

def ofTable (r : Registry) (style : Style) (d : Descriptor Node) : NodeBody :=
  match d.property? "columns" with
  | none => placeholder .noTable
  | some v =>
    match (Codec.list ColumnSchema.codec).decode v with
    | .error e => placeholder (.tableColumns e)
    | .ok columns =>
      { kind := .table, content := d.content, output := output? r style d
        searchFields := ColumnSchema.searchFields columns }

/-- What a descriptor shows, in a style. -/
def ofDescriptor (r : Registry) (style : Style) (d : Descriptor Node) : NodeBody :=
  match StructuralKind.ofName? d.name with
  | some kind => { kind := .structural kind, content := d.content }
  | none =>
    if d.name = "form" then ofForm r style d
    else if d.name = "table" then ofTable r style d
    else ofComponent r style d

/-- The name of a node that shows this: a rendered component has that of the entry it is rendered
with, any other node that of its descriptor. -/
def name (b : NodeBody) (r : Registry) (d : Descriptor Node) : String :=
  match b.kind with
  | .component => ((r.resolve? d.name).map (·.name)).getD d.name
  | _ => d.name

end NodeBody

namespace Frame

/-- The frame of the children. -/
def inherited (f : Frame) : Frame := { style := f.style }

/-- The frame inside a wrapper. -/
def within {ν : Type} (f : Frame) (v : Option Viewport) (w : Wrapper ν) : Frame where
  style := Dict.overlay f.style (w.style v)
  cssClasses := f.cssClasses ++ w.cssClasses
  accessibility := w.accessibility.or f.accessibility

end Frame

namespace ComposedNode

def position : ComposedNode → Position
  | ⟨p, _, _, _, _⟩ => p

def name : ComposedNode → String
  | ⟨_, n, _, _, _⟩ => n

def body : ComposedNode → NodeBody
  | ⟨_, _, b, _, _⟩ => b

def frame : ComposedNode → Frame
  | ⟨_, _, _, f, _⟩ => f

def children : ComposedNode → List ComposedNode
  | ⟨_, _, _, _, c⟩ => c

def key (n : ComposedNode) : String := n.position.key

def kind (n : ComposedNode) : NodeKind := n.body.kind

mutual

/-- A node and all below it, each before its children. -/
def preorder : ComposedNode → List ComposedNode
  | ⟨position, name, body, frame, children⟩ =>
    ⟨position, name, body, frame, children⟩ :: preorderAll children

def preorderAll : List ComposedNode → List ComposedNode
  | [] => []
  | n :: rest => preorder n ++ preorderAll rest

end

/-- The first node with a key. -/
def find? (n : ComposedNode) (key : String) : Option ComposedNode :=
  n.preorder.find? (fun m => m.key == key)

/-- What is said when a node cannot be composed. -/
def ownNotices (n : ComposedNode) : List Notice :=
  match n.kind with
  | .placeholder .unknownComponent => [Registry.unregistered n.name]
  | .placeholder (.formShape e) =>
    [.warning ("form at '" ++ n.key ++ "' could not be compiled: " ++ e.message)]
  | .placeholder (.formFields e) =>
    [.warning ("form at '" ++ n.key ++ "' could not be compiled: " ++ e.message)]
  | .placeholder (.tableColumns e) =>
    [.warning ("table at '" ++ n.key ++ "' has invalid columns: " ++ e.message)]
  | _ => []

def notices (n : ComposedNode) : List Notice := n.preorder.flatMap ownNotices

def bodyEntries (b : NodeBody) : List (String × Json) :=
  (b.content.map (fun s => ("content", Json.str s))).toList ++
  (b.output.map (fun v => ("output", v))).toList ++
  (b.form.map (fun f => ("form", f.toJson))).toList ++
  (if b.searchFields.isEmpty then []
    else [("searchFields", .arr (b.searchFields.map FieldSchema.codec.encode))])

def frameEntries (f : Frame) : List (String × Json) :=
  (if f.style.isEmpty then [] else [("style", Json.obj f.style)]) ++
  (if f.cssClasses.isEmpty then [] else [("cssClasses", .arr (f.cssClasses.map Json.str))]) ++
  (f.accessibility.map (fun a => ("accessibility", AccessibilityHints.record.encode a))).toList

mutual

def toJson : ComposedNode → Json
  | ⟨position, name, body, frame, children⟩ =>
    .obj ([("key", .str position.key), ("name", .str name), ("kind", body.kind.toJson)] ++
      frameEntries frame ++ bodyEntries body ++
      (match toJsonAll children with
        | [] => []
        | items => [("children", .arr items)]))

def toJsonAll : List ComposedNode → List Json
  | [] => []
  | n :: rest => toJson n :: toJsonAll rest

end

end ComposedNode

/-- What trees are composed against. -/
structure Composer where
  registry : Registry
  viewport : Option Viewport := none

namespace Composer

/-- Whether a wrapper hides its node. -/
def hides {ν : Type} (c : Composer) (w : Wrapper ν) : Bool := c.viewport.any w.hiddenOn

/-- A descriptor's node, with the children it has unless it is a placeholder. -/
def close (c : Composer) (position : Position) (frame : Frame) (d : Descriptor Node)
    (children : List ComposedNode) : ComposedNode :=
  let body := NodeBody.ofDescriptor c.registry frame.style d
  ⟨position, body.name c.registry d, body, frame,
    if body.kind.isPlaceholder then [] else children⟩

mutual

/-- Composes the node at a place, within a frame. -/
def composeAt (c : Composer) (position : Position) (frame : Frame) : Node → ComposedNode
  | .wrapper ⟨detail, mode, layout, interaction, display, responsive, animation, cssClasses,
      customStyles, accessibility⟩ =>
    let w : Wrapper Node := ⟨detail, mode, layout, interaction, display, responsive, animation,
      cssClasses, customStyles, accessibility⟩
    if c.hides w then ⟨position, detail.canonical.name, { kind := .hidden }, {}, []⟩
    else composeAt c position (frame.within c.viewport w) detail
  | .legacy ⟨component, path, isMenuItem, content, info, children⟩ =>
    c.close position frame (LegacyNode.normalize ⟨component, path, isMenuItem, content, info, children⟩)
      (composeAll c position frame.inherited 0 children)
  | .descriptor ⟨name, path, isMenuItem, content, properties, children⟩ =>
    c.close position frame ⟨name, path, isMenuItem, content, properties, children⟩
      (composeAll c position frame.inherited 0 children)

/-- Composes the children of a place, numbered from `i`. -/
def composeAll (c : Composer) (position : Position) (frame : Frame) (i : Nat) :
    List Node → List ComposedNode
  | [] => []
  | n :: rest =>
    composeAt c (position ++ [i]) frame n :: composeAll c position frame (i + 1) rest

end

def compose (c : Composer) (n : Node) : ComposedNode := c.composeAt [] {} n

end Composer

end UiSchema
