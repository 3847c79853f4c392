import UiSchema.Layout
import UiSchema.Json.Parser
import UiSchema.Toml.Parser

/-!
# Document text

A document is written in one of two formats, told apart by the extension of its file. Both are read
into the same values, so every structure can be written in either.
-/

set_option autoImplicit false

namespace UiSchema

namespace Document

/-- The value of a document text. -/
def parse (text extension : String) : Except SchemaError Json :=
  match extension with
  | "json" => match Json.parse? text with
    | some v => .ok v
    | none => .error .jsonSyntax
  | "toml" | "tml" => match Toml.parse? text with
    | some v => .ok v
    | none => .error .tomlSyntax
  | other => .error (.unsupported other)

/-- The structure that a document text holds. -/
def read {α : Type} (codec : Codec α) (text extension : String) : Except SchemaError α := do
  let v ← parse text extension
  (codec.decode v).mapError (SchemaError.decode "")

end Document

end UiSchema
