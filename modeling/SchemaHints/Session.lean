/-
Sessions. A session is about one schema file: it compiles the file as often as it is asked to, and
holds the schema of the last compilation, or none when that failed. Shapes are built from the schema
that it holds, whatever has become of the files since.
-/
import SchemaHints.Hint
import SchemaHints.Schema.Compile
import SchemaHints.Shape.Build

namespace SchemaHints

/-- The file a session is about, how it is compiled, the logger it writes to, and the schema it holds. -/
structure Session where
  path : Path
  options : Schema.Options
  logger : Logger
  schema : Option Schema

namespace Session

/-- A new session, which holds no schema yet. -/
def new (path : Path) (options : Schema.Options) (logger : Logger) : Session :=
  ⟨path, options, logger, none⟩

/-- What a failed compilation leaves in the trace. -/
def reportFailure (x : Traced Schema) : Traced Schema :=
  match x.result with
  | .ok _ => x
  | .error e => ⟨x.acts ++ [.line ("Could not compile schema: " ++ e.message)], .error e⟩

/-- A report changes nothing but the trace. -/
@[simp] theorem result_reportFailure (x : Traced Schema) : (reportFailure x).result = x.result := by
  unfold reportFailure
  split
  · rfl
  · rename_i h
    exact h.symm

/-- Takes the outcome of compiling the schema file. -/
def accept (s : Session) (compiled : Traced Schema) : Result Schema × Session :=
  let (result, logger) := s.logger.run (reportFailure compiled)
  (result, { s with logger := logger, schema := result.toOption })

/-- Compiles the schema file as it is now. -/
def compile (s : Session) (files : Files) : Result Schema × Session :=
  s.accept (Schema.compileFile files s.options s.path)

/-- A session gives what the compilation gives, and holds it when it is a schema. -/
theorem compile_result (s : Session) (files : Files) :
    (s.compile files).1 = (Schema.compileFile files s.options s.path).result ∧
      (s.compile files).2.schema = (Schema.compileFile files s.options s.path).result.toOption := by
  have hresult := result_reportFailure (Schema.compileFile files s.options s.path)
  exact ⟨hresult, congrArg Except.toOption hresult⟩

/-- Builds the shapes of the schema that the session holds. -/
def shapes (s : Session) : Result ShapeGraph × Session :=
  match s.schema with
  | none => (fail .notCompiled, s)
  | some schema =>
    let (result, logger) := s.logger.run schema.build
    (result, { s with logger := logger })

end Session

end SchemaHints
