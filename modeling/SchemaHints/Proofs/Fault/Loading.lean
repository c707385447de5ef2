/-
Faults of compilations. Whatever goes wrong while a compilation reads its documents, at whatever stage and
for whatever document, reaches the caller as a fault of the schema that says where it was met: a fault of the
components is one already, the others are wrapped where the document is known, and a file that is referred to
and cannot be read is passed over.

The causes for which a document is refused are a closed list. The two counts are not among them: a visit may
also be refused for the number of documents, and in the end the global elements may be too many.
-/
import SchemaHints.Proofs.Fault.Document
import SchemaHints.Schema.Compile

namespace SchemaHints

open Result

/-! ## Faults as a caller sees them -/

/-- A fault of the schema, told of the document at `location`. -/
structure Fault.ToldOf (location : String) (f : Fault) : Prop where
  kind : f.kind = .schema
  location : f.location = some location

/-- Faults of kinds that callers do not tell apart are wrapped and located. -/
theorem Fault.reportedAt_eq {f : Fault} (h : f.kind.isReported = false) (location : String) :
    f.reportedAt location = { cause := .wrapped f.cause, location := some location } := by
  unfold reportedAt
  rw [if_neg (by simp [h])]

/-- Whether a document is refused for this cause when it is loaded. -/
def Cause.refuses : Cause → Bool
  | noSchemaFile .. | emptyDocument | foreignTarget .. => true
  | wrapped reason => reason.ofMarkup
  | cause => cause.ofDocument

/-- A fault for which the document at `location` is refused. -/
structure Fault.Refuses (location : String) (f : Fault) : Prop where
  cause : f.cause.refuses = true
  location : f.location = some location

namespace Fault.Refuses

theorem toldOf {location : String} {f : Fault} (h : f.Refuses location) : f.ToldOf location := by
  refine ⟨?_, h.location⟩
  have hcause := h.cause
  unfold Fault.kind
  cases hf : f.cause <;> rw [hf] at hcause <;> first | rfl | cases hcause

theorem of_document {location : String} {f : Fault} (h : f.OfDocument location) : f.Refuses location := by
  refine ⟨?_, h.location⟩
  have hcause := h.cause
  cases hf : f.cause <;> rw [hf] at hcause <;> first | rfl | cases hcause

end Fault.Refuses

/-- Faults of the markup are reported for the document. -/
theorem Result.FailsIn.refuses {α : Type} {x : Result α} (h : FailsIn (·.cause.ofMarkup = true) x)
    (location : String) : FailsIn (·.Refuses location) (x.reportedAt location) := by
  rcases x with f | a
  · have hf : f.cause.ofMarkup = true := h f rfl
    refine failsIn_error ?_
    rw [Fault.reportedAt_eq (Cause.isReported_of_ofMarkup hf)]
    exact ⟨hf, rfl⟩
  · exact failsIn_ok a

namespace Schema

/-! ## Visits -/

theorem failsIn_rootAt (location : String) (root : Option Xml.Element) :
    FailsIn (·.Refuses location) (rootAt location root) := by
  cases root with
  | none => exact failsIn_error ⟨rfl, rfl⟩
  | some root => exact failsIn_ok root

namespace Loading

theorem failsIn_add (l : Loading) (root : Xml.Element) (location : String) (base : Option Path) (role : Role) :
    FailsIn (·.Refuses location) (l.add root location base role).result := by
  simp only [add, Traced.result_bind, Traced.result_lift]
  have hread : FailsIn (·.Refuses location) (Document.read root location role) :=
    (Document.failsIn_read root location role).mono fun _ => .of_document
  exact hread.bind fun _ _ => failsIn_ok _

theorem failsIn_addFound (limits : Limits) (l : Loading) (location : String) (role : Role) (content : Bytes)
    (path : Path) : FailsIn (·.Refuses location) (l.addFound limits location role content path).result := by
  simp only [addFound, Traced.result_bind, Traced.result_lift]
  refine ((Xml.failsIn_rootOf limits content).refuses location).bind fun root _ => ?_
  refine (failsIn_rootAt location root).bind fun root _ => ?_
  exact (l.failsIn_add root location path.parent? role).bind fun _ _ => failsIn_ok _

/-- A visit that fails has met too many paths, or refuses the document. -/
theorem failsIn_visit (limits : Limits) (l : Loading) (p : Pending) (answer : Except FileFault Found) :
    FailsIn (fun f => f.Refuses p.path.text ∨ ∃ found, answer = .ok found ∧ found.path ∉ l.visited ∧
        limits.documents < l.visited.length + 1 ∧
        f = { cause := .wrapped (.tooManyDocuments (l.visited.length + 1) limits.documents),
              location := some p.path.text })
      (visit limits l p answer).result := by
  unfold visit
  cases answer with
  | error reason => exact failsIn_ok l
  | ok found =>
    simp only
    split
    · exact failsIn_ok l
    rename_i hnew
    simp only [Traced.result_bind, Traced.result_lift]
    refine FailsIn.bind ?_ fun _ _ => ?_
    · unfold Limits.checkDocuments
      split
      · rename_i hmany
        exact failsIn_error (.inr ⟨found, rfl, hnew, hmany, rfl⟩)
      · exact failsIn_ok ()
    split
    · exact failsIn_ok _
    · simp only [Traced.result_bind, Traced.result_lift]
      refine (((limits.failsIn_checkSize _).refuses p.path.text).mono fun _ => .inl).bind fun _ _ => ?_
      exact (failsIn_addFound limits _ p.path.text p.role _ found.path).mono fun _ => .inl

/-- A visit that fails is told of the document visited. -/
theorem toldOf_visit {limits : Limits} {l : Loading} {p : Pending} {answer : Except FileFault Found} {f : Fault}
    (h : (visit limits l p answer).result = .error f) : f.ToldOf p.path.text := by
  rcases failsIn_visit limits l p answer f h with h | ⟨found, -, -, -, rfl⟩
  · exact h.toldOf
  · exact ⟨rfl, rfl⟩

/-- What every visit that fails has in common, visits one after another have too. -/
theorem failsIn_visitAll {P : Fault → Prop} {files : Files} {limits : Limits}
    (hP : ∀ l p, FailsIn P (visit limits l p (files p.path)).result) (l : Loading) :
    FailsIn P (l.visitAll files limits).result := by
  rcases hl : l.pending with _ | ⟨p, rest⟩
  · rw [visitAll_nil hl]
    exact failsIn_ok l.schema
  · rw [visitAll_cons hl, Traced.result_bind]
    exact (hP _ p).bind fun l' hv => failsIn_visitAll hP l'
termination_by l.measure limits
decreasing_by exact visit_measure hl hv

end Loading

/-! ## Compilations -/

theorem failsIn_checkTarget (expected : Option String) (root : Xml.Element) (location : String) :
    FailsIn (·.Refuses location) (checkTarget expected root location) := by
  unfold checkTarget
  split
  · exact failsIn_ok ()
  · simp only
    split
    · exact failsIn_ok ()
    · exact failsIn_error ⟨rfl, rfl⟩

theorem failsIn_begin (options : Options) (path : Path) (answer : Except FileFault Found) :
    FailsIn (·.Refuses path.text) (begin options path answer).result := by
  cases answer with
  | error reason => exact failsIn_error ⟨rfl, rfl⟩
  | ok found =>
    simp only [begin, Traced.result_bind, Traced.result_lift]
    refine ((found.failsIn_root options.limits).refuses path.text).bind fun root _ => ?_
    refine (failsIn_rootAt path.text root).bind fun root _ => ?_
    refine (failsIn_checkTarget options.target root path.text).bind fun _ _ => ?_
    exact (Loading.start.failsIn_add root path.text _ _).bind fun _ _ => failsIn_ok _

theorem failsIn_complete (limits : Limits) (s : Schema) :
    FailsIn (fun f => f.location = some "global elements" ∧
        f.cause = .wrapped (.tooManyElements s.elements.size limits.elements))
      (complete limits s).result := by
  simp only [complete, Traced.result_bind, Traced.result_lift]
  refine FailsIn.bind ?_ fun _ _ => failsIn_ok _
  unfold Limits.checkElements
  split
  · exact failsIn_error ⟨rfl, rfl⟩
  · exact failsIn_ok ()

/-- An end of a compilation that fails is told of the global elements. -/
theorem toldOf_complete {limits : Limits} {s : Schema} {f : Fault} (h : (complete limits s).result = .error f) :
    f.ToldOf "global elements" := by
  obtain ⟨hlocation, hcause⟩ := failsIn_complete limits s f h
  refine ⟨?_, hlocation⟩
  rw [Fault.kind, hcause]
  rfl

/-- A compilation of a file that fails has met a fault of the schema, and says where. -/
theorem failsIn_compileFile (files : Files) (options : Options) (path : Path) :
    FailsIn (fun f => ∃ location, f.ToldOf location) (compileFile files options path).result := by
  rw [compileFile_eq, Traced.result_bind]
  refine ((failsIn_begin options path _).mono fun _ h => ⟨_, h.toldOf⟩).bind fun l _ => ?_
  rw [Traced.result_bind]
  refine (Loading.failsIn_visitAll (fun _ _ _ hf => ⟨_, Loading.toldOf_visit hf⟩) l).bind fun s _ => ?_
  simp only [finish, Traced.result_bind]
  exact FailsIn.bind (fun _ hf => ⟨_, toldOf_complete hf⟩) fun _ _ => failsIn_ok _

/-- A compilation of a text that fails has met a fault of the schema. -/
theorem failsIn_compileText (files : Files) (text : String) : FailsIn (·.kind = .schema) (compileText files text) := by
  refine (((Xml.failsIn_rootOf _ _).refuses "<string>").mono fun _ h => h.toldOf.kind).bind fun root _ => ?_
  cases root with
  | none => exact failsIn_fail rfl
  | some root =>
    refine ((Loading.failsIn_add _ root "<string>" none .primary).mono fun _ h => h.toldOf.kind).bind fun l _ => ?_
    refine (Loading.failsIn_visitAll (fun _ _ _ hf => (Loading.toldOf_visit hf).kind) l).bind fun s _ => ?_
    exact fun f hf => (toldOf_complete hf).kind

end Schema

end SchemaHints
