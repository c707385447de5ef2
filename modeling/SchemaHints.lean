import SchemaHints.Bytes
import SchemaHints.CommandLine
import SchemaHints.Fault
import SchemaHints.FileTree
import SchemaHints.Files
import SchemaHints.Hint
import SchemaHints.Json
import SchemaHints.Keyed
import SchemaHints.Limits
import SchemaHints.Location.Domain
import SchemaHints.Location.DomainMapping
import SchemaHints.Location.Host
import SchemaHints.Location.Path
import SchemaHints.Location.Punycode
import SchemaHints.Location.Resolve
import SchemaHints.Location.Uri
import SchemaHints.Main
import SchemaHints.Name
import SchemaHints.Schema.Basic
import SchemaHints.Schema.Compile
import SchemaHints.Schema.Component
import SchemaHints.Schema.Content
import SchemaHints.Schema.Document
import SchemaHints.Schema.Loading
import SchemaHints.Schema.Scope
import SchemaHints.Schema.Substitution
import SchemaHints.Schema.Vocabulary
import SchemaHints.Session
import SchemaHints.Shape.Basic
import SchemaHints.Shape.Build
import SchemaHints.Shape.Extract
import SchemaHints.Shape.Walk
import SchemaHints.Text.Blank
import SchemaHints.Text.Composition
import SchemaHints.Text.Direction
import SchemaHints.Text.Joining
import SchemaHints.Text.Lower
import SchemaHints.Text.Mark
import SchemaHints.Text.Order
import SchemaHints.Text.Ranges
import SchemaHints.Text.Shown
import SchemaHints.Trace
import SchemaHints.Xml.Bindings
import SchemaHints.Xml.Document
import SchemaHints.Xml.Element
import SchemaHints.Xml.Encoding
import SchemaHints.Xml.Event
import SchemaHints.Xml.Japanese
import SchemaHints.Xml.Reference
import SchemaHints.Xml.Tag
import SchemaHints.Proofs.Fault.Result
import SchemaHints.Proofs.Fault.Document
import SchemaHints.Proofs.Fault.Loading
import SchemaHints.Proofs.Walk.Reach
import SchemaHints.Proofs.Walk.Gather
import SchemaHints.Proofs.Walk.PathCut
import SchemaHints.Proofs.Graph.Discovery
import SchemaHints.Proofs.Graph.Extension
import SchemaHints.Proofs.Loading.Order
import SchemaHints.Proofs.Loading.Tables
import SchemaHints.Proofs.Loading.Namespaces
import SchemaHints.Proofs.Loading.Limits
import SchemaHints.Proofs.Loading.Count
import SchemaHints.Proofs.Document.Adoption
import SchemaHints.Proofs.Json.Reader
import SchemaHints.Proofs.Json.Written
import SchemaHints.Proofs.Text.Order
import SchemaHints.Proofs.Hint.Members
import SchemaHints.Proofs.Hint.Description
import SchemaHints.Proofs.Hint.Canonical
import SchemaHints.Proofs.Hint.Keys
import SchemaHints.Proofs.Fault.Building
import SchemaHints.Proofs.Trace.Nesting
import SchemaHints.Proofs.Trace.Transparency
import SchemaHints.Proofs.Session.History
import SchemaHints.Proofs.Content.Attributes
import SchemaHints.Proofs.Content.Flatten
import SchemaHints.Proofs.Loading.Compiled
import SchemaHints.Proofs.Document.Naming
import SchemaHints.Proofs.Content.Derivation
import SchemaHints.Proofs.Bounds.Content
import SchemaHints.Proofs.Bounds.Build
import SchemaHints.Proofs.Substitution.Members
import SchemaHints.Proofs.Substitution.Types
import SchemaHints.Proofs.Content.Particles
import SchemaHints.Proofs.Content.Circular
import SchemaHints.Proofs.Xml.Names
import SchemaHints.Proofs.Xml.Preorder
import SchemaHints.Proofs.Xml.Reading
import SchemaHints.Proofs.Xml.Scope
import SchemaHints.Proofs.Xml.SelfClosing
import SchemaHints.Proofs.Document.ContentModel
import SchemaHints.Proofs.Loading.Skipped
import SchemaHints.Proofs.Json.Spacing
import SchemaHints.Proofs.Likeness.Component
import SchemaHints.Proofs.Likeness.Reading
import SchemaHints.Proofs.Likeness.Tables
import SchemaHints.Proofs.Likeness.Shapes
import SchemaHints.Proofs.Likeness.Loading
import SchemaHints.Proofs.Likeness.Versions
import SchemaHints.Proofs.Files.WorkingDirectory
import SchemaHints.Proofs.Loading.EntryPoints
