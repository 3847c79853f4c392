import UiSchema.Document
import UiSchema.Http.Client
import UiSchema.Text.Replace
import UiSchema.Workspace.Files
import UiSchema.Workspace.Path

/-!
# Workspaces

A workspace is a directory that relative paths are resolved against, with the configuration found in
it. Paths may name the directory by a variable. A failure to load tells the file and the cause.
-/

set_option autoImplicit false

namespace UiSchema

inductive LoadError where
  | read (path : String) (fault : ReadFault)
  | parse (path : String) (cause : SchemaError)
  | document (path : String) (cause : DecodeError)
  | layout (path : String) (cause : SchemaError)

/-- The message of an error, followed by those of its causes. -/
def LoadError.chain : LoadError → List String
  | read path fault => ["Failed to read " ++ path, fault.message]
  | parse path cause => ("Failed to parse " ++ path) :: cause.chain
  | document path cause => ["Invalid document " ++ path, cause.message]
  | layout path cause => ("Invalid layout " ++ path) :: cause.chain

inductive ConfigError where
  | notFound (path : String)
  | load (path : String) (cause : LoadError)

def ConfigError.chain : ConfigError → List String
  | notFound path => ["Config file not found: " ++ path]
  | load path cause => ("Failed to load config " ++ path) :: cause.chain

namespace FileSystem

/-- The value of the document at a path. -/
def loadValue (files : FileSystem) (path : String) : Except LoadError Json := do
  let text ← (files path).mapError (LoadError.read path)
  (Document.parse text (Path.extension path)).mapError (LoadError.parse path)

/-- The structure in the document at a path. -/
def load {α : Type} (files : FileSystem) (codec : Codec α) (path : String) : Except LoadError α := do
  let v ← files.loadValue path
  (codec.decode v).mapError (LoadError.document path)

/-- The root node of the document at a path. -/
def loadRoot (files : FileSystem) (path : String) : Except LoadError Node := do
  let v ← files.loadValue path
  (decodeRoot v).mapError (LoadError.layout path)

end FileSystem

structure Workspace where
  directory : String
  config : Config := {}
  /-- where the configuration was found -/
  configPath : Option String := none

namespace Workspace

def configFile : String := ".layoutkit.toml"

def directoryVariable : String := "$\x7bworkspaceFolder\x7d"

/-- The text with the directory in place of its variable. -/
def substitute (w : Workspace) (text : String) : String :=
  Text.replaceAll directoryVariable w.directory text

def resolve (w : Workspace) (path : String) : String := Path.join w.directory (w.substitute path)

/-- Where the configuration is looked for. -/
def configPathOf (w : Workspace) (given : Option String) : String :=
  match given with
  | some path => w.resolve path
  | none => Path.join w.directory configFile

/-- Loads the configuration. Only a file that was asked for has to exist. -/
def loadConfig (w : Workspace) (files : FileSystem) (given : Option String) :
    Except ConfigError Workspace :=
  let path := w.configPathOf given
  if files.has path then do
    let config ← (files.load Config.record.codec path).mapError (ConfigError.load path)
    .ok { w with config := config, configPath := some path }
  else if given.isSome then .error (.notFound path)
  else .ok w

/-- The client of the configured endpoint. -/
def client (w : Workspace) : Except Http.ClientError Http.Client :=
  if w.config.api.baseUrl.isNone then .error .noBaseUrl else Http.Client.ofConfig w.config.api

end Workspace

end UiSchema
