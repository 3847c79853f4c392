import UiSchema.Command.Options
import UiSchema.Compose.Basic
import UiSchema.Config
import UiSchema.Document
import UiSchema.Form.Basic
import UiSchema.Form.Submit
import UiSchema.Json.Parser
import UiSchema.JsonSchema.Types
import UiSchema.Layout
import UiSchema.Lookup.Checkbox
import UiSchema.Lookup.Source
import UiSchema.Main
import UiSchema.Registry.BuiltIn
import UiSchema.Registry.Shared
import UiSchema.Route
import UiSchema.Table.Query
import UiSchema.Toml.Parser
import UiSchema.Unicode.Composition
import UiSchema.Unicode.Direction
import UiSchema.Unicode.Joining
import UiSchema.Unicode.Mapping
import UiSchema.Unicode.Mark
import UiSchema.Unicode.Table
import UiSchema.Url.Address
import UiSchema.Url.Domain
import UiSchema.Url.Host
import UiSchema.Url.Path
import UiSchema.Url.Percent
import UiSchema.Url.Punycode
import UiSchema.Workspace.Basic
import UiSchema.Proofs.Form.Addressing
import UiSchema.Proofs.Form.RowEdits
import UiSchema.Proofs.Form.RowRemoval
import UiSchema.Proofs.Dict
import UiSchema.Proofs.Form.Siblings
import UiSchema.Proofs.Form.Nesting
import UiSchema.Proofs.Form.Submission
import UiSchema.Proofs.Json.Equality
import UiSchema.Proofs.Json.Arrangement
import UiSchema.Proofs.Decode.Codec
import UiSchema.Proofs.Decode.Record
import UiSchema.Proofs.Decode.Congruence
import UiSchema.Proofs.Node.Decoding
import UiSchema.Proofs.Node.Hints
import UiSchema.Proofs.Node.Shapes
import UiSchema.Proofs.Node.RoundTrip
import UiSchema.Proofs.Form.RoundTrip
import UiSchema.Proofs.Table.RoundTrip
import UiSchema.Proofs.Lookup.RoundTrip
import UiSchema.Proofs.Document.RoundTrip
import UiSchema.Proofs.Table.LastEdits
import UiSchema.Proofs.Compose.Registered
import UiSchema.Proofs.Compose.Encoding
import UiSchema.Proofs.Node.Tree
import UiSchema.Proofs.Registry.Registration
import UiSchema.Proofs.Form.Seeding
import UiSchema.Proofs.Compose.Cascade
import UiSchema.Proofs.Registry.History
import UiSchema.Proofs.Form.NestedLists
import UiSchema.Proofs.Form.RowAdditions
import UiSchema.Proofs.Compose.Keys
import UiSchema.Proofs.Form.Construction
import UiSchema.Proofs.Form.FullNames
import UiSchema.Proofs.Form.Required
import UiSchema.Proofs.Form.Assembly
import UiSchema.Proofs.Form.Trimming
import UiSchema.Proofs.Form.Conforming
import UiSchema.Proofs.Compose.Places
import UiSchema.Proofs.Compose.Pruning
import UiSchema.Proofs.Compose.Isolation
import UiSchema.Proofs.Lookup.Debouncing
import UiSchema.Proofs.Lookup.Options
import UiSchema.Proofs.Registry.Stopping
import UiSchema.Proofs.Registry.Lifecycle
import UiSchema.Proofs.Registry.Aliases
import UiSchema.Proofs.Table.Changes
import UiSchema.Proofs.Table.Independence
import UiSchema.Proofs.Table.SearchForm
import UiSchema.Proofs.Form.Validation
import UiSchema.Proofs.Route.Cutting
import UiSchema.Proofs.Route.Slugs
import UiSchema.Proofs.Route.Nesting
import UiSchema.Proofs.Route.Substitution
import UiSchema.Proofs.Form.Redirects
import UiSchema.Proofs.Form.Defaults
import UiSchema.Proofs.Decode.Entries
import UiSchema.Proofs.Form.EmailAddresses
import UiSchema.Proofs.Document.Roots
import UiSchema.Proofs.Document.Exactness
import UiSchema.Proofs.Form.Rearrangement
import UiSchema.Proofs.Route.Breadcrumbs
import UiSchema.Proofs.Text.Octets
import UiSchema.Proofs.Url.FormDecoding
import UiSchema.Proofs.Lookup.SearchUrls
import UiSchema.Proofs.Http.Rejections
import UiSchema.Proofs.Registry.ComponentMaps
