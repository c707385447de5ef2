/-
Compilation. A schema is compiled from a file, whose path is the first to be visited, or from a text
that has no path and refers to documents in the current directory. In the end the number of global
elements is checked, and the attributes of the XML namespace are supplied when it was imported and
no document declares them.
-/
import SchemaHints.Schema.Loading

namespace SchemaHints.Schema

/-- What a compilation may be asked for: limits, and the namespace that the primary document must
declare. -/
structure Options where
  limits : Limits
  target : Option String

namespace Options

/-- Standard limits, and any namespace. -/
def standard : Options := ⟨.standard, none⟩

end Options

/-! ## Attributes of the XML namespace -/

/-- The global attributes of the XML namespace. -/
def xmlAttributes : List AttributeDecl :=
  let builtin (localName : String) : Option TypeRef := some (.named ⟨schemaNamespace, localName⟩)
  let spaces : SimpleType := ⟨none, .restriction (builtin "NCName") ["default", "preserve"]⟩
  [⟨⟨xmlNamespace, "lang"⟩, builtin "language"⟩,
    ⟨⟨xmlNamespace, "space"⟩, some (.inline (.simple spaces))⟩,
    ⟨⟨xmlNamespace, "base"⟩, builtin "anyURI"⟩,
    ⟨⟨xmlNamespace, "id"⟩, builtin "ID"⟩]

/-- The attributes of the XML namespace that a schema uses without declaring them. -/
def suppliedAttributes (s : Schema) : List AttributeDecl :=
  if s.importsXml then xmlAttributes.filter fun a => !s.attributes.contains a.name else []

/-- Completes the tables of a schema once all documents are loaded. -/
def complete (limits : Limits) (s : Schema) : Traced Schema := do
  Traced.lift ((limits.checkElements s.elements.size).reportedAt "global elements")
  let supplied := s.suppliedAttributes
  Traced.lines (supplied.map ("Using built-in attribute " ++ ·.name.text))
  pure (s.addAttributes supplied)

/-! ## From a file -/

/-- Checks that a root element declares the namespace asked for. -/
def checkTarget (expected : Option String) (root : Xml.Element) (location : String) : Result Unit :=
  match expected with
  | none => .ok ()
  | some expected =>
    let declared := declaredTarget root
    if declared ≠ "" ∧ declared = expected then .ok ()
    else failAt location (.foreignTarget declared expected)

/-- Starts a compilation with what the file system answers to the path of the primary document. -/
def begin (options : Options) (path : Path) (answer : Except FileFault Found) : Traced Loading :=
  match answer with
  | .error reason => Traced.lift (failAt path.text (.noSchemaFile reason))
  | .ok found => do
    let root ← Traced.lift ((found.root options.limits).reportedAt path.text)
    let root ← Traced.lift (rootAt path.text root)
    Traced.lift (checkTarget options.target root path.text)
    let l ← Loading.start.add root path.text found.path.parent? .primary
    Traced.line "Schema read..."
    pure { l with
      visited := [found.path]
      schema := { l.schema with sources := [found.path] } }

/-- Ends a compilation whose documents are all loaded. -/
def finish (options : Options) (s : Schema) : Traced Schema := do
  let s ← complete options.limits s
  Traced.line "Schema compiled..."
  pure s

/-- Compiles the schema in a file, asking for what is behind each path. -/
def compileFileWith {m : Type → Type} [Monad m] (ask : Path → m (Except FileFault Found))
    (options : Options) (path : Path) : m (Traced Schema) := do
  let start := begin options path (← ask path)
  match start.result with
  | .error e => pure ⟨start.acts, .error e⟩
  | .ok l => do
    let loaded ← l.visitAllWith ask options.limits
    pure (start >>= fun _ => loaded >>= finish options)

/-- Compiles the schema in a file of a file system. -/
def compileFile (files : Files) (options : Options) (path : Path) : Traced Schema :=
  Id.run (compileFileWith (fun path => pure (files path)) options path)

theorem compileFile_eq (files : Files) (options : Options) (path : Path) :
    compileFile files options path = (do
      let l ← begin options path (files path)
      let s ← l.visitAll files options.limits
      finish options s) := by
  unfold compileFile compileFileWith
  simp only [pure_bind]
  show _ = Traced.andThen _ _
  conv => rhs; unfold Traced.andThen
  split <;> rename_i h
  · simp only [h]; rfl
  · simp only [h]
    show Traced.andThen _ _ = _
    unfold Traced.andThen
    simp only [h]
    rfl

/-! ## From a text -/

/-- Compiles the schema in a text, under standard limits. -/
def compileText (files : Files) (text : String) : Result Schema := do
  let location := "<string>"
  let root ← (Xml.rootOf .standard (Bytes.ofString text)).reportedAt location
  match root with
  | none => fail .emptyDocument
  | some root => do
    let l ← (Loading.start.add root location none .primary).result
    let s ← (l.visitAll files .standard).result
    (complete .standard s).result

end SchemaHints.Schema
