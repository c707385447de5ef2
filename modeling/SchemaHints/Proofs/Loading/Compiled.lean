/-
Compiled schemas, from a file or from a text. However a schema is compiled, its tables grow out of empty ones
by the components of documents that were read and, in the end, by the attributes of the XML namespace; so what
these steps preserve holds of every compiled schema.
-/
import SchemaHints.Proofs.Loading.Order

namespace SchemaHints.Schema

/-- The schemas that a compilation gives, of a file or of a text. -/
def Compiled (s : Schema) : Prop :=
  (∃ files options path, (compileFile files options path).result = .ok s) ∨
    ∃ files text, compileText files text = .ok s

/-- A property of schemas that is one of their tables, and that every step of a compilation preserves. -/
structure Preserved (P : Schema → Prop) : Prop where
  empty : P .empty
  merge : ∀ {s root location role d}, P s → Document.read root location role = .ok d → P (s.merge d)
  supply : ∀ {s}, P s → P (s.addAttributes s.suppliedAttributes)
  /-- It is not about what else a schema tells. -/
  tables : ∀ {s}, P s → ∀ target importsXml sources,
    P { s with target := target, importsXml := importsXml, sources := sources }

namespace Preserved

variable {P : Schema → Prop} {l l' : Loading}

theorem add (hP : Preserved P) {root : Xml.Element} {location : String} {base : Option Path} {role : Role}
    (hl : P l.schema) (h : (l.add root location base role).result = .ok l') : P l'.schema := by
  unfold Loading.add at h
  simp only [Traced.result_bind, Traced.result_lift, Traced.result_line, Traced.result_nested,
    Traced.result_lines, Traced.result_pure] at h
  obtain ⟨d, hd, h⟩ := Result.bind_eq_ok.1 h
  cases h
  exact hP.tables (hP.merge hl hd) _ _ _

theorem addFound (hP : Preserved P) {limits : Limits} {location : String} {role : Role} {content : Bytes}
    {path : Path} (hl : P l.schema) (h : (l.addFound limits location role content path).result = .ok l') :
    P l'.schema := by
  unfold Loading.addFound at h
  simp only [Traced.result_bind, Traced.result_lift, Traced.result_pure] at h
  obtain ⟨found, -, h⟩ := Result.bind_eq_ok.1 h
  obtain ⟨root, -, h⟩ := Result.bind_eq_ok.1 h
  obtain ⟨l'', hadd, h⟩ := Result.bind_eq_ok.1 h
  cases h
  exact hP.tables (hP.add hl hadd) _ _ _

theorem visit (hP : Preserved P) {limits : Limits} {p : Pending} {answer : Except FileFault Found}
    (hl : P l.schema) (h : (Loading.visit limits l p answer).result = .ok l') : P l'.schema := by
  unfold Loading.visit at h
  split at h
  · cases h
    exact hl
  split at h
  · cases h
    exact hl
  simp only [Traced.result_bind, Traced.result_lift] at h
  obtain ⟨-, -, h⟩ := Result.bind_eq_ok.1 h
  split at h
  · cases h
    exact hl
  · simp only [Traced.result_bind, Traced.result_lift] at h
    obtain ⟨-, -, h⟩ := Result.bind_eq_ok.1 h
    exact hP.addFound (l := { l with visited := _ :: l.visited }) hl h

theorem visitAll (hP : Preserved P) {files : Files} {limits : Limits} {s : Schema} (hl : P l.schema)
    (h : (l.visitAll files limits).result = .ok s) : P s := by
  obtain ⟨n, final, hn, -, rfl⟩ := Loading.exists_after_of_visitAll l h
  exact Loading.after_induction (fun {l p rest l'} hl _ hv => hP.visit (l := { l with pending := rest }) hl hv) hl hn

theorem complete (hP : Preserved P) {limits : Limits} {s s' : Schema} (hs : P s)
    (h : (complete limits s).result = .ok s') : P s' := by
  simp only [Schema.complete, Traced.result_bind, Traced.result_lift, Traced.result_lines, Traced.result_pure] at h
  obtain ⟨-, -, h⟩ := Result.bind_eq_ok.1 h
  cases h
  exact hP.supply hs

theorem begin (hP : Preserved P) {options : Options} {path : Path} {answer : Except FileFault Found}
    (h : (Schema.begin options path answer).result = .ok l) : P l.schema := by
  cases answer with
  | error reason => cases h
  | ok found =>
    simp only [Schema.begin, Traced.result_bind, Traced.result_lift, Traced.result_line, Traced.result_pure] at h
    obtain ⟨found, -, h⟩ := Result.bind_eq_ok.1 h
    obtain ⟨root, -, h⟩ := Result.bind_eq_ok.1 h
    obtain ⟨-, -, h⟩ := Result.bind_eq_ok.1 h
    obtain ⟨l', hadd, h⟩ := Result.bind_eq_ok.1 h
    cases h
    exact hP.tables (hP.add hP.empty hadd) _ _ _

/-- What the steps of a compilation preserve holds of what it gives. -/
theorem compiled (hP : Preserved P) {s : Schema} (h : s.Compiled) : P s := by
  rcases h with ⟨files, options, path, h⟩ | ⟨files, text, h⟩
  · rw [compileFile_eq, Traced.result_bind] at h
    obtain ⟨l, hbegin, h⟩ := Result.bind_eq_ok.1 h
    rw [Traced.result_bind] at h
    obtain ⟨s', hvisits, h⟩ := Result.bind_eq_ok.1 h
    simp only [finish, Traced.result_bind, Traced.result_line, Traced.result_pure] at h
    obtain ⟨s'', hcomplete, h⟩ := Result.bind_eq_ok.1 h
    cases h
    exact hP.complete (hP.visitAll (hP.begin hbegin) hvisits) hcomplete
  · obtain ⟨root, -, h⟩ := Result.bind_eq_ok.1 h
    cases root with
    | none => cases h
    | some root =>
      obtain ⟨l, hadd, h⟩ := Result.bind_eq_ok.1 h
      obtain ⟨s', hvisits, hcomplete⟩ := Result.bind_eq_ok.1 h
      exact hP.complete (hP.visitAll (hP.add hP.empty hadd) hvisits) hcomplete

end Preserved

end SchemaHints.Schema
