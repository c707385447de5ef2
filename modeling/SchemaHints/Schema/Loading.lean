/-
Loading. A compilation starts from the primary document and visits the documents that are referred
to, first come first served. A file is visited once, by its canonical path, under the role of the
reference that reaches it first; references to remote documents, and files that are not there or
cannot be read, are passed over, while a document that can be read must be a schema. The limit on
the number of documents bounds the visits, since every new path counts.
-/
import SchemaHints.Files
import SchemaHints.Location.Resolve
import SchemaHints.Schema.Basic
import SchemaHints.Trace

namespace SchemaHints.Schema

/-- A document to visit: its path as the reference has it, and its role. -/
structure Pending where
  path : Path
  role : Role

/-- A compilation between two visits: the schema so far, the canonical paths already visited, and
the documents still to visit. -/
structure Loading where
  schema : Schema
  visited : List Path
  pending : List Pending

/-! ## References -/

namespace Reference

/-- Whether this reference imports the XML namespace. -/
def importsXml (r : Reference) : Bool := r.kind = .imports && r.space = some xmlNamespace

/-- The role of the document referred to, from a document with this target namespace. -/
def role (r : Reference) (target : String) : Role :=
  match r.kind with
  | .imports => .imported
  | .includes | .redefines => .included target

/-- The document that a reference leads to, from a document in the directory `base`. -/
def pending? (base : Option Path) (target : String) (r : Reference) : Option Pending := do
  let path ← Location.resolve? (← r.location) base
  some ⟨path, r.role target⟩

/-- What there is to say about a reference. -/
def notes (base : Option Path) (r : Reference) : List String :=
  match r.location with
  | none => ["Import of " ++ r.space.getD "(no namespace)" ++ " has no schemaLocation"]
  | some location => match Location.resolve? location base with
    | none => ["Skipping remote schema " ++ location]
    | some _ =>
      if r.kind = .redefines then ["Redefinitions in " ++ location ++ " are not applied"] else []

end Reference

namespace Document

/-- The documents that a document in the directory `base` refers to. -/
def pending (d : Document) (base : Option Path) : List Pending :=
  d.references.filterMap (Reference.pending? base d.target)

/-- What there is to say about a document. -/
def notes (d : Document) (base : Option Path) : List String :=
  d.skipped.map ("Ignoring unknown schema child xs:" ++ ·) ++ d.references.flatMap (Reference.notes base)

end Document

/-! ## Visits -/

/-- The root element that a document must have. -/
def rootAt (location : String) (root : Option Xml.Element) : Result Xml.Element :=
  match root with
  | some root => .ok root
  | none => failAt location .emptyDocument

namespace Loading

/-- Nothing loaded yet. -/
def start : Loading := ⟨.empty, [], []⟩

/-- Adds a document, which stands in the directory `base`. -/
def add (l : Loading) (root : Xml.Element) (location : String) (base : Option Path) (role : Role) :
    Traced Loading := do
  let d ← Traced.lift (Document.read root location role)
  Traced.line ("Read " ++ location)
  Traced.nested (Traced.lines (d.notes base))
  let schema := l.schema.merge d
  pure { l with
    schema := { schema with
      target := if role = .primary then d.target else schema.target
      importsXml := schema.importsXml || d.references.any Reference.importsXml }
    pending := l.pending ++ d.pending base }

/-- Adds the document that was found for a reference, and its file to the sources. -/
def addFound (limits : Limits) (l : Loading) (location : String) (role : Role) (content : Bytes)
    (path : Path) : Traced Loading := do
  let root ← Traced.lift ((Xml.rootOf limits content).reportedAt location)
  let root ← Traced.lift (rootAt location root)
  let l ← l.add root location path.parent? role
  pure { l with schema := { l.schema with sources := l.schema.sources ++ [path] } }

/-- Visits a document, given what the file system answers to its path. -/
def visit (limits : Limits) (l : Loading) (p : Pending) (answer : Except FileFault Found) : Traced Loading :=
  match answer with
  | .error reason => do
    Traced.line ("Skipping unreadable schema " ++ p.path.text ++ ": " ++ reason.text)
    pure l
  | .ok found =>
    if found.path ∈ l.visited then pure l
    else do
      -- a path counts against the limit as soon as it is met, readable or not
      let l := { l with visited := found.path :: l.visited }
      Traced.lift ((limits.checkDocuments l.visited.length).reportedAt p.path.text)
      match found.content with
      | .error reason => do
        Traced.line ("Skipping unreadable schema: " ++ (Cause.unreadableFile found.path.text reason).text)
        pure l
      | .ok content => do
        Traced.lift ((limits.checkSize content.length).reportedAt p.path.text)
        l.addFound limits p.path.text p.role content found.path

/-- What bounds the visits still to come: the documents that the limit leaves, then those pending. -/
def measure (limits : Limits) (l : Loading) : Nat × Nat :=
  (limits.documents + 1 - l.visited.length, l.pending.length)

theorem add_visited {l l' : Loading} {root : Xml.Element} {location : String} {base : Option Path}
    {role : Role} (h : (l.add root location base role).result = .ok l') : l'.visited = l.visited := by
  unfold add at h
  simp only [Traced.result_bind, Traced.result_lift, Traced.result_line, Traced.result_nested,
    Traced.result_lines, Traced.result_pure] at h
  obtain ⟨d, -, h⟩ := Result.bind_eq_ok.1 h
  cases h
  rfl

theorem addFound_visited {limits : Limits} {l l' : Loading} {location : String} {path : Path} {role : Role}
    {content : Bytes} (h : (l.addFound limits location role content path).result = .ok l') :
    l'.visited = l.visited := by
  unfold addFound at h
  simp only [Traced.result_bind, Traced.result_lift, Traced.result_pure] at h
  obtain ⟨root, -, h⟩ := Result.bind_eq_ok.1 h
  obtain ⟨root, -, h⟩ := Result.bind_eq_ok.1 h
  obtain ⟨l2, h2, h⟩ := Result.bind_eq_ok.1 h
  cases h
  exact (add_visited h2 : l2.visited = l.visited)

theorem not_lt_of_checkDocuments {limits : Limits} {n : Nat} {location : String} {u : Unit}
    (h : (limits.checkDocuments n).reportedAt location = .ok u) : ¬ limits.documents < n := by
  unfold Limits.checkDocuments at h
  split at h
  · cases h
  · assumption

theorem visit_measure {limits : Limits} {l l' : Loading} {p : Pending} {rest : List Pending}
    {answer : Except FileFault Found} (hp : l.pending = p :: rest)
    (h : (visit limits { l with pending := rest } p answer).result = .ok l') :
    Prod.Lex (· < ·) (· < ·) (l'.measure limits) (l.measure limits) := by
  have hsame : Prod.Lex (· < ·) (· < ·) (measure limits { l with pending := rest }) (l.measure limits) := by
    unfold measure
    rw [hp]
    exact Prod.Lex.right _ (Nat.lt_succ_self _)
  have hless : ∀ {found : Found}, found.path ∉ l.visited → l'.visited = found.path :: l.visited →
      ¬ limits.documents < (found.path :: l.visited).length →
      Prod.Lex (· < ·) (· < ·) (l'.measure limits) (l.measure limits) := by
    intro found _ hv hl
    unfold measure
    refine Prod.Lex.left _ _ ?_
    rw [hv]
    simp only [List.length_cons, Nat.not_lt] at hl ⊢
    omega
  unfold visit at h
  split at h
  · simp only [Traced.result_bind, Traced.result_line, Traced.result_pure] at h
    cases h
    exact hsame
  rename_i found
  split at h
  · cases h
    exact hsame
  rename_i hn
  simp only [Traced.result_bind, Traced.result_lift] at h
  obtain ⟨_, hl, h⟩ := Result.bind_eq_ok.1 h
  have hl := not_lt_of_checkDocuments hl
  split at h
  · simp only [Traced.result_bind, Traced.result_line, Traced.result_pure] at h
    cases h
    exact hless hn rfl hl
  · simp only [Traced.result_bind, Traced.result_lift] at h
    obtain ⟨_, -, h⟩ := Result.bind_eq_ok.1 h
    exact hless hn (addFound_visited h) hl

/-- Visits documents until none is pending, asking for what is behind the path of each. -/
def visitAllWith {m : Type → Type} [Monad m] (ask : Path → m (Except FileFault Found)) (limits : Limits)
    (l : Loading) : m (Traced Schema) :=
  match _hp : l.pending with
  | [] => pure (pure l.schema)
  | p :: rest => do
    let answer ← ask p.path
    let step := visit limits { l with pending := rest } p answer
    match _h : step.result with
    | .error e => pure ⟨step.acts, .error e⟩
    | .ok l' => do
      let more ← visitAllWith ask limits l'
      pure ⟨step.acts ++ more.acts, more.result⟩
termination_by l.measure limits
decreasing_by exact visit_measure _hp _h

/-- Visits documents of a file system until none is pending. -/
def visitAll (files : Files) (limits : Limits) (l : Loading) : Traced Schema :=
  Id.run (visitAllWith (fun path => pure (files path)) limits l)

theorem visitAll_nil {files : Files} {limits : Limits} {l : Loading} (h : l.pending = []) :
    l.visitAll files limits = pure l.schema := by
  unfold visitAll
  rw [visitAllWith]
  split
  · rfl
  · rename_i h'; rw [h] at h'; cases h'

theorem visitAll_cons {files : Files} {limits : Limits} {l : Loading} {p : Pending} {rest : List Pending}
    (h : l.pending = p :: rest) :
    l.visitAll files limits =
      visit limits { l with pending := rest } p (files p.path) >>= visitAll files limits := by
  unfold visitAll
  rw [visitAllWith]
  split
  · rename_i h'; rw [h] at h'; cases h'
  rename_i p' rest' h'
  rw [h] at h'
  cases h'
  show _ = Traced.andThen _ _
  unfold Traced.andThen
  simp only [pure_bind]
  split <;> rename_i h1 <;> simp only [h1] <;> rfl

end Loading

end SchemaHints.Schema
