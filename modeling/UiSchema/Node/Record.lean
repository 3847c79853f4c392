import UiSchema.Node.Basic

/-!
# Nodes as records

The three shapes are exact records over a codec of the nodes inside them. Which shape a value has is
decided by its keys alone: `componentDetail` makes it a wrapper, otherwise `component` an older node,
otherwise it is a descriptor.
-/

set_option autoImplicit false

namespace UiSchema

namespace Json

mutual

/-- How deep arrays and objects are nested in a value. -/
def depth : Json → Nat
  | .arr items => depthItems items + 1
  | .obj fields => depthFields fields + 1
  | _ => 0

def depthItems : List Json → Nat
  | [] => 0
  | x :: xs => max (depth x) (depthItems xs)

def depthFields : List (String × Json) → Nat
  | [] => 0
  | (_, x) :: xs => max (depth x) (depthFields xs)

end

end Json

variable {ν : Type}

def Descriptor.record (node : Codec ν) : Record (Descriptor ν) where
  name := "ComponentDescriptor"
  exact := true
  fields := [
    (.mandatory "name" .text (fun a s => { s with name := a }) (·.name)
      : RecordField (Descriptor ν)).withAlias "type",
    .optional "path" .text (fun a s => { s with path := a }) (·.path),
    .defaulted "isMenuItem" .bool (fun a s => { s with isMenuItem := a }) (·.isMenuItem),
    .optional "content" .text (fun a s => { s with content := a }) (·.content),
    (.optional "properties" .properties (fun a s => { s with properties := a }) (·.properties)
      : RecordField (Descriptor ν)).withAlias "props",
    .unlessEmpty "children" (.list node) (fun a s => { s with children := a }) (·.children)]
  initial := {}

def LegacyMeta.record : Record LegacyMeta where
  name := "LegacyMeta"
  exact := true
  fields := [
    .optional "component" .text (fun a s => { s with component := a }) (·.component),
    .optional "properties" .properties (fun a s => { s with properties := a }) (·.properties)]
  initial := {}

def LegacyNode.record (node : Codec ν) : Record (LegacyNode ν) where
  name := "LegacyDescriptor"
  exact := true
  fields := [
    .mandatory "component" .text (fun a s => { s with component := a }) (·.component),
    .optional "path" .text (fun a s => { s with path := a }) (·.path),
    .defaulted "isMenuItem" .bool (fun a s => { s with isMenuItem := a }) (·.isMenuItem),
    .optional "content" .text (fun a s => { s with content := a }) (·.content),
    .optional "meta" LegacyMeta.record.codec (fun a s => { s with info := a }) (·.info),
    .unlessEmpty "children" (.list node) (fun a s => { s with children := a }) (·.children)]
  initial := {}

def Wrapper.record [Inhabited ν] (node : Codec ν) : Record (Wrapper ν) where
  name := "RendererConfig"
  exact := true
  fields := [
    .mandatory "componentDetail" node (fun a s => { s with detail := a }) (·.detail),
    .optional "mode" .text (fun a s => { s with mode := a }) (·.mode),
    .optional "layout" LayoutHints.record.codec (fun a s => { s with layout := a }) (·.layout),
    .optional "interaction" InteractionHints.record.codec (fun a s => { s with interaction := a })
      (·.interaction),
    .optional "display" DisplayHints.record.codec (fun a s => { s with display := a }) (·.display),
    .optional "responsive" ResponsiveHints.record.codec (fun a s => { s with responsive := a })
      (·.responsive),
    .optional "animation" .raw (fun a s => { s with animation := a }) (·.animation),
    .unlessEmpty "cssClasses" (.list .text) (fun a s => { s with cssClasses := a })
      (·.cssClasses),
    .unlessEmpty "customStyles" (.dict CssValue.codec) (fun a s => { s with customStyles := a })
      (·.customStyles),
    .optional "accessibility" AccessibilityHints.record.codec
      (fun a s => { s with accessibility := a }) (·.accessibility)]
  initial := { detail := default }

namespace Node

mutual

def toJson : Node → Json
  | .wrapper ⟨detail, mode, layout, interaction, display, responsive, animation, classes, styles,
      accessibility⟩ =>
    (Wrapper.record .raw).encode ⟨toJson detail, mode, layout, interaction, display, responsive,
      animation, classes, styles, accessibility⟩
  | .legacy ⟨component, path, isMenuItem, content, info, children⟩ =>
    (LegacyNode.record .raw).encode
      ⟨component, path, isMenuItem, content, info, toJsonItems children⟩
  | .descriptor ⟨name, path, isMenuItem, content, properties, children⟩ =>
    (Descriptor.record .raw).encode
      ⟨name, path, isMenuItem, content, properties, toJsonItems children⟩

def toJsonItems : List Node → List Json
  | [] => []
  | n :: rest => toJson n :: toJsonItems rest

end

/-- Decodes a node nested at most `fuel` deep; errors are reported at `path`. -/
def decodeWithin : Nat → String → Json → Except SchemaError Node
  | 0, path, v => .error (.typeMismatch path "object" v)
  | fuel + 1, path, v =>
    let inner : Codec Node :=
      { decode := fun v => (decodeWithin fuel "" v).mapError DecodeError.node, encode := toJson }
    match v with
    | .obj fields =>
      if Dict.contains fields "componentDetail" then
        (((Wrapper.record inner).decode v).map Node.wrapper).mapError (SchemaError.decode path)
      else if Dict.contains fields "component" then
        (((LegacyNode.record inner).decode v).map Node.legacy).mapError (SchemaError.decode path)
      else
        (((Descriptor.record inner).decode v).map Node.descriptor).mapError
          (SchemaError.decode path)
    | v => .error (.typeMismatch path "object" v)

/-- Decodes a node; errors are reported at `path`. -/
def decodeAt (path : String) (v : Json) : Except SchemaError Node :=
  decodeWithin (v.depth + 1) path v

/-- Nodes inside other structures. -/
def codec : Codec Node where
  decode v := (decodeAt "" v).mapError DecodeError.node
  encode := toJson

end Node

def Descriptor.codec : Codec (Descriptor Node) := (Descriptor.record Node.codec).codec

def LegacyNode.codec : Codec (LegacyNode Node) := (LegacyNode.record Node.codec).codec

def Wrapper.codec : Codec (Wrapper Node) := (Wrapper.record Node.codec).codec

end UiSchema
