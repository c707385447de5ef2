/-
Faults. Each has a cause, one of a closed list, and from the cause follow its kind and its message;
a fault of the schema kind may also say where it happened. Only three kinds concern a caller of the
compiler, so every other cause is wrapped into a schema fault at the document where it was met.
-/
import SchemaHints.Name
import SchemaHints.Xml.Event

namespace SchemaHints

/-- What a caller can tell apart: the schema is wrong, uses a construct that is not modelled, or was
used out of order; and the kinds of fault that the compiler wraps. -/
inductive Kind
  | schema
  | construct
  | usage
  | resource
  | naming
  | limit
  | file
  | xml
  | json
  deriving DecidableEq

/-- The words that open the message of each kind. -/
def Kind.label : Kind → String
  | schema => "schema compilation error"
  | construct => "unsupported grammar construct"
  | usage => "invalid usage"
  | resource => "resource error"
  | naming => "namespace error"
  | limit => "limit exceeded"
  | file => "I/O error"
  | xml => "XML error"
  | json => "JSON error"

/-- Whether a fault of this kind reaches a caller of the compiler unwrapped. -/
def Kind.isReported : Kind → Bool
  | schema | construct | usage => true
  | _ => false

/-- Why a path has no file to read behind it. -/
inductive FileFault
  | missing
  | notDirectory
  | isDirectory
  | nameTooLong
  | nulInPath
  | other (text : String)
  deriving DecidableEq

/-- The message of a file fault. -/
def FileFault.text : FileFault → String
  | missing => "No such file or directory (os error 2)"
  | notDirectory => "Not a directory (os error 20)"
  | isDirectory => "Is a directory (os error 21)"
  | nameTooLong => "File name too long (os error 36)"
  | nulInPath => "file name contained an unexpected NUL byte"
  | other text => text

/-- The tables that names are looked up in. -/
inductive Table
  | elements
  | types
  | groups
  | attributes
  | attributeGroups
  | substitutionHeads
  deriving DecidableEq

/-- What an entry of a table is called. -/
def Table.entryText : Table → String
  | elements => "element"
  | types => "type"
  | groups => "group"
  | attributes => "attribute"
  | attributeGroups => "attribute group"
  | substitutionHeads => "substitution group head"

/-- The causes of faults. -/
inductive Cause
  /-- A name that a table does not hold. -/
  | undefined (table : Table) (name : Name)
  /-- A type that is derived from itself. -/
  | circularDerivation (name : Name)
  /-- An attribute whose type is complex. -/
  | complexAttribute (name : Name)
  /-- A document without a root element. -/
  | emptyDocument
  /-- A document whose root is no schema element. -/
  | notASchema (root : Name)
  /-- An included document that declares a namespace of its own. -/
  | foreignInclude (declared expected : String)
  /-- A primary document that does not declare the namespace asked for. -/
  | foreignTarget (declared expected : String)
  /-- An element without an attribute that it must have. -/
  | missingAttribute (tag key : String)
  /-- An attribute whose value names nothing. -/
  | unresolved (value : String) (reason : Cause)
  /-- A simple type that says nothing of its values. -/
  | emptySimpleType (name : Option Name)
  /-- A primary document that is not there. -/
  | noSchemaFile (reason : FileFault)
  /-- Any cause, met while compiling. -/
  | wrapped (reason : Cause)
  /-- A particle of a content model that is not modelled. -/
  | unsupportedParticle (tag : String)
  /-- Shapes were asked for before a schema was compiled. -/
  | notCompiled
  /-- A file that cannot be read. -/
  | unreadableFile (path : String) (reason : FileFault)
  /-- A prefix without a binding. -/
  | unknownPrefix (pfx : String)
  /-- A prefix without a binding, on the name of an element. -/
  | unknownElementPrefix (pfx name : String)
  /-- Elements nested too deep. -/
  | tooDeep (depth maximum : Nat)
  /-- A document with too many bytes. -/
  | tooLarge (size maximum : Nat)
  /-- Too many documents in one compilation. -/
  | tooManyDocuments (count maximum : Nat)
  /-- Too many global elements. -/
  | tooManyElements (count maximum : Nat)
  /-- Broken markup. -/
  | malformed (position : Nat) (reason : Xml.MarkupFault)
  /-- A tag that cannot be read. -/
  | badTag (reason : Xml.TagFault)
  /-- A document that ends inside an element. -/
  | unclosedElement
  /-- A fault that a caller words for itself. -/
  | worded (kind : Kind) (text : String)
  deriving DecidableEq

namespace Cause

/-- The kind of a cause. -/
def kind : Cause → Kind
  | undefined .. | circularDerivation .. | complexAttribute .. | emptyDocument | notASchema ..
  | foreignInclude .. | foreignTarget .. | missingAttribute .. | unresolved .. | emptySimpleType ..
  | noSchemaFile .. | wrapped .. => .schema
  | unsupportedParticle .. => .construct
  | notCompiled => .usage
  | unreadableFile .. => .resource
  | unknownPrefix .. | unknownElementPrefix .. => .naming
  | tooDeep .. | tooLarge .. | tooManyDocuments .. | tooManyElements .. => .limit
  | malformed .. | badTag .. | unclosedElement => .xml
  | worded kind _ => kind

/-- The message of a cause; a cause inside another is told with its kind. -/
def text : Cause → String
  | undefined table name => "Undefined " ++ table.entryText ++ " '" ++ name.text ++ "'"
  | circularDerivation name => "Circular derivation of type '" ++ name.text ++ "'"
  | complexAttribute name => "Attribute '" ++ name.text ++ "' has a complex type"
  | emptyDocument => "Empty document"
  | notASchema root => "Expected xs:schema root element, got " ++ root.text
  | foreignInclude declared expected =>
    "Included schema has different targetNamespace '" ++ declared ++ "', expected '" ++ expected ++ "'"
  | foreignTarget declared expected =>
    "Schema targetNamespace '" ++ declared ++ "' does not match expected '" ++ expected ++ "'"
  | missingAttribute tag key => "xs:" ++ tag ++ " missing '" ++ key ++ "' attribute"
  | unresolved value reason =>
    "Cannot resolve '" ++ value ++ "': " ++ reason.kind.label ++ ": " ++ reason.text
  | emptySimpleType name =>
    "xs:simpleType " ++ (name.map Name.text).getD "(anonymous)" ++ " has no restriction, list or union"
  | noSchemaFile reason => "Cannot read schema: " ++ reason.text
  | wrapped reason => reason.kind.label ++ ": " ++ reason.text
  | unsupportedParticle tag => "content model particle xs:" ++ tag
  | notCompiled => "Schema is not compiled yet."
  | unreadableFile path reason => "Failed to read file '" ++ path ++ "': " ++ reason.text
  | unknownPrefix pfx => "Unknown prefix: " ++ pfx
  | unknownElementPrefix pfx name => "Unknown prefix '" ++ pfx ++ "' on element '" ++ name ++ "'"
  | tooDeep depth maximum =>
    "XML depth " ++ toString depth ++ " exceeds maximum " ++ toString maximum
  | tooLarge size maximum =>
    "XML size " ++ toString size ++ " bytes exceeds maximum " ++ toString maximum ++ " bytes"
  | tooManyDocuments count maximum =>
    "Schema document count " ++ toString count ++ " exceeds maximum " ++ toString maximum
  | tooManyElements count maximum =>
    "Global element count " ++ toString count ++ " exceeds maximum " ++ toString maximum
  | malformed position reason =>
    "Error parsing XML at position " ++ toString position ++ ": " ++ reason.text
  | badTag reason => reason.text
  | unclosedElement => "Unexpected end of document: unclosed element"
  | worded _ text => text

end Cause

/-- A fault: its cause, and for a schema fault the document where it happened and the source text. -/
structure Fault where
  cause : Cause
  location : Option String := none
  source : Option String := none
  deriving DecidableEq

namespace Fault

/-- The kind of a fault. -/
def kind (f : Fault) : Kind := f.cause.kind

/-- The message of a fault: its kind, its cause, and what is known of the place. -/
def message (f : Fault) : String :=
  f.kind.label ++ ": " ++ f.cause.text
    ++ (f.location.map ("\n\nLocation: " ++ ·)).getD ""
    ++ (f.source.map ("\n\nSource:\n" ++ ·)).getD ""

/-- A fault as the compiler reports it for a document: causes of the kinds that callers do not tell
apart are wrapped and located there, and all others stay as they are. -/
def reportedAt (location : String) (f : Fault) : Fault :=
  if f.kind.isReported then f else { cause := .wrapped f.cause, location := some location }

end Fault

/-- A computation that may fail. -/
abbrev Result (α : Type) := Except Fault α

/-- The failed computation with this cause. -/
def fail {α : Type} (cause : Cause) : Result α := .error { cause := cause }

/-- The failed computation with this cause in a document. -/
def failAt {α : Type} (location : String) (cause : Cause) : Result α :=
  .error { cause := cause, location := some location }

theorem Result.ok_bind {α β : Type} (a : α) (f : α → Result β) : (.ok a >>= f : Result β) = f a := rfl

/-- One computation after another succeeds exactly when both do. -/
theorem Result.bind_eq_ok {α β : Type} {x : Result α} {f : α → Result β} {b : β} :
    (x >>= f) = .ok b ↔ ∃ a, x = .ok a ∧ f a = .ok b := by
  cases x with
  | error e => simp [bind, Except.bind]
  | ok a => simp [bind, Except.bind]

theorem Result.toOption_eq_some {ε α : Type} {x : Except ε α} {a : α} : x.toOption = some a ↔ x = .ok a := by
  cases x with
  | error e => exact ⟨nofun, nofun⟩
  | ok b => rw [Except.toOption, Option.some.injEq, Except.ok.injEq]

/-- A result whose fault is reported for a document. -/
def Result.reportedAt {α : Type} (location : String) : Result α → Result α
  | .ok a => .ok a
  | .error f => .error (f.reportedAt location)

end SchemaHints
