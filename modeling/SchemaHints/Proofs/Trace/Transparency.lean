/-
Logging is transparent. Every step of a compilation and of a build is balanced, on each of its ways out: most
steps nest what they do as a whole, and are balanced because their parts are. A walk is not made of parts. It
opens a level when it comes to a group and closes it at a task of its own, perhaps far behind, so what holds
on the way is that it closes as many levels as there are such tasks left; and when it gives up it closes
these and does nothing else.
-/
import SchemaHints.Proofs.Trace.Nesting
import SchemaHints.Session

namespace SchemaHints

open Traced

namespace Schema

/-! ## The walk -/

/-- The levels that tasks are still to leave. -/
def levels : List Task → Nat
  | [] => 0
  | .leave :: todo => levels todo + 1
  | .visit _ :: todo => levels todo

theorem levels_groupTasks (items : List Particle) (todo : List Task) :
    levels (groupTasks items todo) = levels todo + 1 := by
  induction items with
  | nil => rfl
  | cons p ps ih => exact ih

theorem closes_abandon {α : Type} (todo : List Task) (reason : Fault) :
    Closes (levels todo) (abandon todo reason : Traced α).acts := by
  induction todo with
  | nil => exact .nil
  | cons t todo ih =>
    cases t with
    | leave => exact ih.outdent
    | visit p => exact ih

/-- A walk leaves the levels of its tasks, whether it gives declarations or gives up. -/
theorem closes_walkTasks (s : Schema) (entered : List Name) (todo : List Task) :
    Closes (levels todo) (s.walkTasks entered todo).acts := by
  fun_induction walkTasks s entered todo with
  | case1 => exact .nil
  | case2 entered rest ih => exact ih.outdent
  -- the level that a group opens is left by the task behind its items
  | case3 entered compositor items rest ih =>
    rw [levels_groupTasks] at ih
    exact ih.indent.line _
  | case4 entered n rest hn ih => exact ih.line _
  -- a group that is not defined has opened its level before the walk gives up
  | case5 entered n rest hn hp =>
    have habandon := closes_abandon (α := List ElementDecl) (.leave :: rest) { cause := .undefined .groups n }
    exact habandon.indent.line _
  | case6 entered n rest hn p hp ih =>
    rw [levels_groupTasks] at ih
    exact ih.indent.line _
  | case7 entered n rest reason hd => exact closes_abandon rest reason
  | case8 entered n rest declaration hd ih =>
    have hrest := closes_bind ih fun declarations _ =>
      balanced_pure (declaration :: s.substitutionMembers declaration ++ declarations)
    exact (Closes.lines (substitutionNotes declaration (s.substitutionMembers declaration))).append hrest
  | case9 entered declaration rest ih => exact closes_bind ih fun _ _ => balanced_pure _
  | case10 entered rest ih => exact ih
  | case11 entered rest ih => exact ih
  | case12 entered tag rest => exact closes_abandon rest _

theorem balanced_walk (s : Schema) (p : Particle) : (s.walk p).Balanced := closes_walkTasks s [] [.visit p]

/-! ## Extracting and building -/

theorem balanced_extractAttributes (s : Schema) (as : List AttributeDecl) : (s.extractAttributes as).Balanced := by
  induction as with
  | nil => exact balanced_pure []
  | cons a as ih =>
    refine (balanced_lift _).bind fun shape _ => ?_
    refine (balanced_line _).bind fun _ _ => ?_
    exact ih.bind fun _ _ => balanced_pure _

theorem balanced_extractComplex (s : Schema) (e : ElementDecl) (isTopLevel : Bool) (content : Content) :
    (s.extractComplex e isTopLevel content).Balanced := by
  refine (balanced_line _).bind fun _ _ => ?_
  refine (s.balanced_extractAttributes _).nested.bind fun attributes _ => ?_
  refine (balanced_line _).bind fun _ _ => ?_
  exact (s.balanced_walk _).nested.bind fun _ _ => balanced_pure _

theorem balanced_extract (s : Schema) (e : ElementDecl) (isTopLevel : Bool) : (s.extract e isTopLevel).Balanced := by
  unfold extract
  split
  · exact balanced_lift _
  · exact balanced_pure _
  · exact (s.balanced_extractComplex e isTopLevel _).nested

theorem balanced_buildFrom (s : Schema) (count : Nat) (graph : ShapeGraph) (pending : List ElementDecl)
    (hp : s.CoversAll pending) : (s.buildFrom count graph pending hp).Balanced := by
  have hnext (graph : ShapeGraph) (d : ElementDecl) : (s.extractNext count graph d).Balanced :=
    (balanced_line _).bind fun _ _ => s.balanced_extract d _
  fun_induction buildFrom s count graph pending hp with
  | case1 graph => exact balanced_pure graph
  | case2 graph d rest hp hd hp' ih => exact ih
  | case3 graph d rest hp hd step reason hstep => exact hnext graph d
  | case4 graph d rest hp hd step shape children hstep more =>
    rename_i ih
    exact Closes.append (hnext graph d) ih

theorem balanced_build (s : Schema) : s.build.Balanced := s.balanced_buildFrom _ _ _ _

/-! ## Compiling -/

namespace Loading

theorem balanced_add (l : Loading) (root : Xml.Element) (location : String) (base : Option Path) (role : Role) :
    (l.add root location base role).Balanced := by
  refine (balanced_lift _).bind fun d _ => ?_
  refine (balanced_line _).bind fun _ _ => ?_
  exact (balanced_lines _).nested.bind fun _ _ => balanced_pure _

theorem balanced_addFound (limits : Limits) (l : Loading) (location : String) (role : Role) (content : Bytes)
    (path : Path) : (l.addFound limits location role content path).Balanced := by
  refine (balanced_lift _).bind fun root _ => ?_
  refine (balanced_lift _).bind fun root _ => ?_
  exact (l.balanced_add root location path.parent? role).bind fun _ _ => balanced_pure _

theorem balanced_visit (limits : Limits) (l : Loading) (p : Pending) (answer : Except FileFault Found) :
    (visit limits l p answer).Balanced := by
  unfold visit
  cases answer with
  | error reason => exact (balanced_line _).bind fun _ _ => balanced_pure _
  | ok found =>
    simp only
    split
    · exact balanced_pure l
    refine (balanced_lift _).bind fun _ _ => ?_
    split
    · exact (balanced_line _).bind fun _ _ => balanced_pure _
    · exact (balanced_lift _).bind fun _ _ => balanced_addFound _ _ _ _ _ _

theorem balanced_visitAll (files : Files) (limits : Limits) (l : Loading) : (l.visitAll files limits).Balanced := by
  rcases hl : l.pending with _ | ⟨p, rest⟩
  · rw [visitAll_nil hl]
    exact balanced_pure l.schema
  · rw [visitAll_cons hl]
    exact (balanced_visit _ _ p _).bind fun l' hv => balanced_visitAll files limits l'
termination_by l.measure limits
decreasing_by exact visit_measure hl hv

end Loading

theorem balanced_begin (options : Options) (path : Path) (answer : Except FileFault Found) :
    (begin options path answer).Balanced := by
  cases answer with
  | error reason => exact balanced_lift _
  | ok found =>
    refine (balanced_lift _).bind fun root _ => ?_
    refine (balanced_lift _).bind fun root _ => ?_
    refine (balanced_lift _).bind fun _ _ => ?_
    refine (Loading.start.balanced_add root path.text _ _).bind fun l _ => ?_
    exact (balanced_line _).bind fun _ _ => balanced_pure _

theorem balanced_finish (options : Options) (s : Schema) : (finish options s).Balanced := by
  have hcomplete : (complete options.limits s).Balanced := by
    refine (balanced_lift _).bind fun _ _ => ?_
    exact (balanced_lines _).bind fun _ _ => balanced_pure _
  refine hcomplete.bind fun s _ => ?_
  exact (balanced_line _).bind fun _ _ => balanced_pure _

theorem balanced_compileFile (files : Files) (options : Options) (path : Path) :
    (compileFile files options path).Balanced := by
  rw [compileFile_eq]
  refine (balanced_begin options path _).bind fun l _ => ?_
  exact (l.balanced_visitAll files options.limits).bind fun s _ => balanced_finish options s

end Schema

/-! ## Sessions -/

namespace Session

theorem balanced_reportFailure {x : Traced Schema} (h : x.Balanced) : (reportFailure x).Balanced := by
  unfold reportFailure
  split
  · exact h
  · exact Closes.append h (.line _ .nil)

/-- A session with another logger. -/
def withLogger (s : Session) (l : Logger) : Session := { s with logger := l }

end Session

/-- Logging is transparent, in each step of a session and in the steps that these are made of: a compilation,
the shapes, a build, an extraction and a walk. What a compilation leaves in the session, apart from the
logger, does not depend on the logger either. -/
theorem logging_transparent :
    (∀ (s : Session) (files : Files),
      (Transparent fun l => (((s.withLogger l).compile files).1, ((s.withLogger l).compile files).2.logger)) ∧
      ∀ l l', ((s.withLogger l).compile files).2.schema = ((s.withLogger l').compile files).2.schema) ∧
    (∀ s : Session, Transparent fun l => ((s.withLogger l).shapes.1, (s.withLogger l).shapes.2.logger)) ∧
    (∀ s : Schema, Transparent fun l => l.run s.build) ∧
    (∀ (s : Schema) (e : Schema.ElementDecl) (isTopLevel : Bool), Transparent fun l => l.run (s.extract e isTopLevel)) ∧
    ∀ (s : Schema) (p : Schema.Particle), Transparent fun l => l.run (s.walk p) := by
  refine ⟨?_, ?_, ?_, ?_, ?_⟩
  · intro s files
    have hcompile := Schema.balanced_compileFile files s.options s.path
    exact ⟨(Session.balanced_reportFailure hcompile).transparent, fun _ _ => rfl⟩
  · intro s
    rcases hs : s.schema with _ | schema
    · have hlift : (lift (fail .notCompiled) : Traced ShapeGraph).Balanced := balanced_lift _
      have hshapes (l : Logger) : ((s.withLogger l).shapes.1, (s.withLogger l).shapes.2.logger) =
          l.run (lift (fail .notCompiled)) := by
        simp only [Session.shapes, Session.withLogger, hs]
        rfl
      simp only [hshapes]
      exact hlift.transparent
    · have hshapes (l : Logger) : ((s.withLogger l).shapes.1, (s.withLogger l).shapes.2.logger) =
          l.run schema.build := by
        simp only [Session.shapes, Session.withLogger, hs]
      simp only [hshapes]
      exact schema.balanced_build.transparent
  · exact fun s => s.balanced_build.transparent
  · exact fun s e isTopLevel => (s.balanced_extract e isTopLevel).transparent
  · exact fun s p => (s.balanced_walk p).transparent

end SchemaHints
