/-
Histories of a session. Files are written and deleted, and the session compiles and gives shapes, in whatever
order. What a session remembers of all this is the result of its last compilation, and of that only the
schema: every compilation replaces what was held before by its own result, and nothing else touches it. So
the shapes are those of the schema that was compiled last, whatever has become of the files since, and a
compilation gives what a new session would give on the files as they are.

The files are those of any storage. All that matters of it is that it answers to paths, and that writing and
deleting turn it into another one.
-/
import SchemaHints.FileTree
import SchemaHints.Proofs.Fault.Building
import SchemaHints.Proofs.Loading.Order
import SchemaHints.Session

namespace SchemaHints

/-- A storage of files: what it answers to paths, and what it becomes when a file is written or deleted. -/
structure Storage (σ : Type) where
  files : σ → Files
  write : σ → Path → Bytes → σ
  delete : σ → Path → σ

/-- The storage that a file tree is. -/
def FileTree.storage : Storage FileTree := ⟨toFiles, write, delete⟩

namespace Session

/-! ## Steps and their answers -/

/-- What may happen to a session and its files. -/
inductive Step
  | write (path : Path) (content : Bytes)
  | delete (path : Path)
  | compile
  | shapes

/-- What a step answers. -/
inductive Answer
  | done
  | compiled (result : Result Schema)
  | shaped (result : Result ShapeGraph)

/-- A session and the storage that its files are in. -/
structure Hosted (σ : Type) where
  stored : σ
  session : Session

namespace Hosted

variable {σ : Type} (storage : Storage σ)

/-- Takes a step. -/
def take (h : Hosted σ) : Step → Answer × Hosted σ
  | .write path content => (.done, { h with stored := storage.write h.stored path content })
  | .delete path => (.done, { h with stored := storage.delete h.stored path })
  | .compile =>
    let (result, session) := h.session.compile (storage.files h.stored)
    (.compiled result, { h with session := session })
  | .shapes =>
    let (result, session) := h.session.shapes
    (.shaped result, { h with session := session })

/-- The session and its storage after some steps. -/
def after (h : Hosted σ) (steps : List Step) : Hosted σ := steps.foldl (fun h step => (h.take storage step).2) h

/-- The answers to some steps in order. -/
def answers (h : Hosted σ) : List Step → List Answer
  | [] => []
  | step :: steps => (h.take storage step).1 :: (h.take storage step).2.answers steps

/-- Earlier answers do not depend on later steps, and these go on from where the earlier ones have led. -/
theorem answers_append (h : Hosted σ) (before later : List Step) :
    h.answers storage (before ++ later) = h.answers storage before ++ (h.after storage before).answers storage later := by
  induction before generalizing h with
  | nil => rfl
  | cons step before ih => exact congrArg _ (ih (h.take storage step).2)

end Hosted

/-! ## What a history comes to -/

/-- A storage after a step, as far as the step writes or deletes. -/
def Step.change {σ : Type} (storage : Storage σ) (stored : σ) : Step → σ
  | .write path content => storage.write stored path content
  | .delete path => storage.delete stored path
  | .compile | .shapes => stored

/-- A storage after all that some steps write and delete. -/
def changed {σ : Type} (storage : Storage σ) (stored : σ) (steps : List Step) : σ :=
  steps.foldl (Step.change storage) stored

/-- The result of the last compilation that was answered. -/
def lastCompiled (answers : List Answer) : Option (Result Schema) :=
  answers.reverse.findSome? fun | .compiled result => some result | _ => none

theorem lastCompiled_concat (answers : List Answer) (answer : Answer) :
    lastCompiled (answers ++ [answer]) = match answer with
      | .compiled result => some result
      | _ => lastCompiled answers := by
  rw [lastCompiled, List.reverse_append, List.reverse_singleton, List.singleton_append, List.findSome?_cons]
  cases answer <;> rfl

/-- What is known of a session, new at `stored`, after steps that were answered: it is about the same file, and
it holds the schema of the last compilation, if that gave one. -/
structure Follows {σ : Type} (storage : Storage σ) (stored : σ) (path : Path) (options : Schema.Options)
    (steps : List Step) (answers : List Answer) (h : Hosted σ) : Prop where
  stored : h.stored = changed storage stored steps
  path : h.session.path = path
  options : h.session.options = options
  schema : h.session.schema = (lastCompiled answers).bind Except.toOption

namespace Follows

variable {σ : Type} {storage : Storage σ} {stored : σ} {path : Path} {options : Schema.Options}
  {steps : List Step} {earlier : List Answer} {h : Hosted σ}

theorem start (storage : Storage σ) (stored : σ) (path : Path) (options : Schema.Options) (logger : Logger) :
    Follows storage stored path options [] [] ⟨stored, .new path options logger⟩ := ⟨rfl, rfl, rfl, rfl⟩

/-- A compilation answers what the files and the options of the session give, and nothing else counts. -/
theorem compiled (hf : Follows storage stored path options steps earlier h) :
    (h.take storage .compile).1 =
      .compiled (Schema.compileFile (storage.files (changed storage stored steps)) options path).result := by
  have hresult := (h.session.compile_result (storage.files h.stored)).1
  rw [hf.stored, hf.path, hf.options] at hresult
  show Answer.compiled (h.session.compile (storage.files h.stored)).1 = _
  rw [hf.stored, hresult]

/-- Every step keeps what is known. -/
theorem step (hf : Follows storage stored path options steps earlier h) (s : Step) :
    Follows storage stored path options (steps ++ [s]) (earlier ++ [(h.take storage s).1]) (h.take storage s).2 := by
  have hchanged : changed storage stored (steps ++ [s]) = s.change storage (changed storage stored steps) :=
    List.foldl_concat ..
  cases s with
  | write p content =>
    refine ⟨?_, hf.path, hf.options, ?_⟩
    · rw [hchanged, ← hf.stored]
      rfl
    · rw [lastCompiled_concat]
      exact hf.schema
  | delete p =>
    refine ⟨?_, hf.path, hf.options, ?_⟩
    · rw [hchanged, ← hf.stored]
      rfl
    · rw [lastCompiled_concat]
      exact hf.schema
  -- whatever was held before is gone, and what is held now is what has just been answered
  | compile =>
    obtain ⟨hresult, hschema⟩ := h.session.compile_result (storage.files h.stored)
    refine ⟨by rw [hchanged]; exact hf.stored, hf.path, hf.options, ?_⟩
    rw [lastCompiled_concat]
    exact hschema.trans (congrArg Except.toOption hresult.symm)
  | shapes =>
    have hkept : h.session.shapes.2.schema = h.session.schema ∧ h.session.shapes.2.path = h.session.path ∧
        h.session.shapes.2.options = h.session.options := by
      unfold Session.shapes
      split <;> exact ⟨rfl, rfl, rfl⟩
    obtain ⟨hschema, hpath, hoptions⟩ := hkept
    refine ⟨by rw [hchanged]; exact hf.stored, hpath.trans hf.path, hoptions.trans hf.options, ?_⟩
    rw [lastCompiled_concat]
    exact hschema.trans hf.schema

/-- What is known after some steps is known after any number of steps more. -/
theorem run (hf : Follows storage stored path options steps earlier h) (more : List Step) :
    Follows storage stored path options (steps ++ more) (earlier ++ h.answers storage more)
      (h.after storage more) := by
  induction more generalizing steps earlier h with
  | nil => simpa [Hosted.answers, Hosted.after] using hf
  | cons s more ih =>
    have hmore := ih (hf.step s)
    simpa [Hosted.answers, Hosted.after] using hmore

/-- Shapes are refused for want of a schema exactly when none has been compiled, or the last compilation has
failed; with a schema they are built from it. -/
theorem shaped (hf : Follows storage stored path options steps earlier h) :
    ((∃ f, h.session.shapes.1 = .error f ∧ f.kind = .usage) ↔
      lastCompiled earlier = none ∨ ∃ f, lastCompiled earlier = some (.error f)) ∧
    ∀ schema, lastCompiled earlier = some (.ok schema) → h.session.shapes.1 = schema.build.result := by
  have hrefused (hnone : h.session.schema = none) : ∃ f, h.session.shapes.1 = .error f ∧ f.kind = .usage := by
    simp only [Session.shapes, hnone]
    exact ⟨_, rfl, rfl⟩
  rcases hlast : lastCompiled earlier with _ | f | schema
  · have hnone : h.session.schema = none := by rw [hf.schema, hlast]; rfl
    exact ⟨iff_of_true (hrefused hnone) (.inl rfl), fun _ h => by cases h⟩
  · have hnone : h.session.schema = none := by rw [hf.schema, hlast]; rfl
    exact ⟨iff_of_true (hrefused hnone) (.inr ⟨f, rfl⟩), fun _ h => by cases h⟩
  · have hsome : h.session.schema = some schema := by rw [hf.schema, hlast]; rfl
    constructor
    · refine iff_of_false ?_ (by simp)
      rintro ⟨f, hfail, husage⟩
      rcases Session.shapes_error hsome hfail with hkind | ⟨hkind, -⟩
      · rw [husage] at hkind
        cases hkind
      · rw [husage] at hkind
        cases hkind
    · rintro _ ⟨⟩
      simp only [Session.shapes, hsome]
      rfl

end Follows

/-- What was compiled last stays so until there is another compilation. -/
theorem lastCompiled_answers {σ : Type} (storage : Storage σ) (stored : σ) (path : Path) (options : Schema.Options)
    (logger : Logger) (before quiet : List Step) (hq : ∀ s ∈ quiet, s ≠ .compile) :
    lastCompiled ((Hosted.mk stored (.new path options logger)).answers storage (before ++ .compile :: quiet)) =
      some (Schema.compileFile (storage.files (changed storage stored before)) options path).result := by
  have hnow := (Follows.start storage stored path options logger).run before
  induction quiet using List.reverseRecOn with
  | nil =>
    rw [Hosted.answers_append]
    show lastCompiled (_ ++ [((Hosted.after storage _ before).take storage .compile).1]) = _
    rw [lastCompiled_concat, hnow.compiled]
    rfl
  | append_singleton quiet s ih =>
    have hlast := ih fun s' hs' => hq s' (List.mem_append_left _ hs')
    have hs : s ≠ .compile := hq s (List.mem_append_right _ (List.mem_singleton_self s))
    rw [← List.cons_append, ← List.append_assoc, Hosted.answers_append]
    show lastCompiled (_ ++ [((Hosted.after storage _ (before ++ .compile :: quiet)).take storage s).1]) = _
    rw [lastCompiled_concat, hlast]
    cases s with
    | compile => exact absurd rfl hs
    | _ => rfl

/-- The answers of a session, whatever has happened before. A compilation answers what the path, the options
and the files as they are now give, and no compilation before it. Shapes are refused for want of a schema
exactly when there was no compilation yet, or the last one failed; otherwise they are those of the schema that
the last compilation gave, whatever was written and deleted since, and however often they were asked for. -/
theorem answers_history {σ : Type} (storage : Storage σ) (stored : σ) (path : Path) (options : Schema.Options)
    (logger : Logger) (before later : List Step) :
    let start : Hosted σ := ⟨stored, .new path options logger⟩
    let earlier := start.answers storage before
    (∃ rest, start.answers storage (before ++ .compile :: later) = earlier ++
      .compiled (Schema.compileFile (storage.files (changed storage stored before)) options path).result :: rest) ∧
    ∃ result rest, start.answers storage (before ++ .shapes :: later) = earlier ++ .shaped result :: rest ∧
      ((∃ f, result = .error f ∧ f.kind = .usage) ↔
        lastCompiled earlier = none ∨ ∃ f, lastCompiled earlier = some (.error f)) ∧
      ∀ schema, lastCompiled earlier = some (.ok schema) → result = schema.build.result := by
  intro start earlier
  have hnow : Follows storage stored path options before earlier (start.after storage before) :=
    (Follows.start storage stored path options logger).run before
  constructor
  · refine ⟨((start.after storage before).take storage .compile).2.answers storage later, ?_⟩
    rw [Hosted.answers_append, ← hnow.compiled]
    rfl
  · obtain ⟨hrefused, hbuilt⟩ := hnow.shaped
    refine ⟨(start.after storage before).session.shapes.1,
      ((start.after storage before).take storage .shapes).2.answers storage later, ?_, hrefused, hbuilt⟩
    rw [Hosted.answers_append]
    rfl

/-- A document that declares an element, written as the only file. -/
def writePart : Step := .write (.ofString "main.xsd") (Schema.documentBytes "" ["<xs:element name='part'/>"])

theorem answers_history_deleted :
    let main := Path.ofString "main.xsd"
    let start : Hosted FileTree := ⟨.ofFiles [], .new main .standard (.new none)⟩
    let deleted : List Step := [writePart] ++ .compile :: [.delete main]
    let again : List Step := deleted ++ .compile :: [.shapes]
    (∃ (schema : Schema) (rest : List Answer), schema.elements.keys = [.plain "part"] ∧
      start.answers FileTree.storage (deleted ++ .shapes :: [.shapes]) =
        start.answers FileTree.storage deleted ++ .shaped schema.build.result :: rest) ∧
    ∃ (f : Fault) (rest : List Answer), f.kind = .usage ∧ start.answers FileTree.storage (again ++ .shapes :: []) =
      start.answers FileTree.storage again ++ .shaped (.error f) :: rest := by
  intro main start deleted again
  have hwritten : (Schema.compiledWithin (FileTree.storage.files (changed FileTree.storage start.stored [writePart]))
      .standard main 0).map (fun s => s.elements.keys) = some [.plain "part"] := by
    decide +kernel
  have hmissing : (Schema.failedWithin (FileTree.storage.files (changed FileTree.storage start.stored deleted))
      .standard main 0).isSome = true := by
    decide +kernel
  constructor
  · obtain ⟨schema, hcompiled, hkeys⟩ := Schema.exists_compileFile hwritten
    have hlast := lastCompiled_answers FileTree.storage start.stored main .standard (.new none) [writePart]
      [.delete main] (by simp)
    rw [hcompiled] at hlast
    obtain ⟨-, result, rest, hanswers, -, hbuilt⟩ := answers_history FileTree.storage start.stored main .standard
      (.new none) deleted [.shapes]
    rw [hbuilt schema hlast] at hanswers
    exact ⟨schema, rest, hkeys, hanswers⟩
  · obtain ⟨failure, hfailure⟩ := Option.isSome_iff_exists.1 hmissing
    have hlast := lastCompiled_answers FileTree.storage start.stored main .standard (.new none) deleted
      [.shapes] (by simp)
    rw [Schema.compileFile_of_failedWithin hfailure] at hlast
    obtain ⟨-, result, rest, hanswers, hrefused, -⟩ := answers_history FileTree.storage start.stored main .standard
      (.new none) again []
    obtain ⟨f, rfl, husage⟩ := hrefused.2 (.inr ⟨failure, hlast⟩)
    exact ⟨f, rest, husage, hanswers⟩

end Session

end SchemaHints
