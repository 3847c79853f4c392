import UiSchema.Lookup.Option
import UiSchema.Viewport

/-!
# Configuration

The settings of a workspace. Every part may be left out, and keys that are not known are ignored; a
missing part has its default value, and absent texts are written as null.
-/

set_option autoImplicit false

namespace UiSchema

structure ApiConfig where
  /-- stands in front of relative endpoints -/
  baseUrl : Option String := none
  token : Option String := none

def ApiConfig.record : Record ApiConfig where
  name := "ApiConfig"
  exact := false
  fields := [
    .nullable "base_url" .text (fun a s => { s with baseUrl := a }) (·.baseUrl),
    .nullable "token" .text (fun a s => { s with token := a }) (·.token)]
  initial := {}

structure LookupConfig where
  debounce : Nat := defaultDebounce

def LookupConfig.record : Record LookupConfig where
  name := "LookupConfig"
  exact := false
  fields := [
    .defaulted "debounce_ms" (.natural 64) (fun a s => { s with debounce := a }) (·.debounce)]
  initial := {}

structure Config where
  api : ApiConfig := {}
  lookup : LookupConfig := {}
  /-- components bound beside the built-in ones -/
  components : List String := []
  /-- other names for bound components -/
  aliases : Dict String := []
  viewport : Option Viewport := none

def Config.record : Record Config where
  name := "AppConfig"
  exact := false
  fields := [
    .defaulted "api" ApiConfig.record.codec (fun a s => { s with api := a }) (·.api),
    .defaulted "lookup" LookupConfig.record.codec (fun a s => { s with lookup := a }) (·.lookup),
    .defaulted "components" (.list .text) (fun a s => { s with components := a }) (·.components),
    .defaulted "aliases" (.dict .text) (fun a s => { s with aliases := a }) (·.aliases),
    .nullable "viewport" Viewport.codec (fun a s => { s with viewport := a }) (·.viewport)]
  initial := {}

end UiSchema
