/-
Faults of sessions. A build of shapes looks up names, which ends in a fault of the schema when one of them
is not defined, and walks content models, which ends in another kind of fault only at a particle that is not
modelled. Such a particle is one that the build has reached: it lies in the content model of a global
element, or of an element that the content models of those before it yield.

So a session knows three kinds of fault: it has no schema, its schema is wrong, or its schema uses something
that is not modelled.
-/
import SchemaHints.FileTree
import SchemaHints.Proofs.Fault.Loading
import SchemaHints.Proofs.Graph.Discovery
import SchemaHints.Proofs.Hint.Members
import SchemaHints.Proofs.Loading.Order
import SchemaHints.Proofs.Walk.Gather
import SchemaHints.Session

namespace SchemaHints

open Result

namespace Schema

/-! ## Types and attributes -/

theorem failsIn_find {α : Type} (table : Table) (entries : Keyed Name α) (n : Name) :
    FailsIn (·.kind = .schema) (find table entries n) := by
  unfold find
  split
  · exact failsIn_ok _
  · exact failsIn_fail rfl

variable (s : Schema)

theorem failsIn_typeNamed (n : Name) : FailsIn (·.kind = .schema) (s.typeNamed n) := by
  unfold typeNamed
  split
  · exact failsIn_ok _
  · exact (failsIn_find .types s.types n).bind fun _ _ => failsIn_ok _

theorem failsIn_resolve (r : TypeRef) : FailsIn (·.kind = .schema) (s.resolve r) := by
  cases r with
  | named n => exact s.failsIn_typeNamed n
  | inline definition => exact failsIn_ok _
  | any => exact failsIn_ok _

theorem failsIn_inheritedType (seen : List Name) (head : Option Name) :
    FailsIn (·.kind = .schema) (s.inheritedType seen head) := by
  fun_induction inheritedType s seen head with
  | case1 => exact failsIn_ok _
  | case2 => exact failsIn_ok _
  | case3 => exact failsIn_fail rfl
  | case4 _ _ _ _ _ _ ih => exact ih
  | case5 => exact s.failsIn_resolve _

theorem failsIn_elementType (e : ElementDecl) : FailsIn (·.kind = .schema) (s.elementType e) := by
  unfold elementType
  split
  · exact s.failsIn_inheritedType _ _
  · exact s.failsIn_resolve _

theorem failsIn_enumeration (a : AttributeDecl) : FailsIn (·.kind = .schema) (s.enumeration a) := by
  unfold enumeration
  split
  · exact failsIn_ok _
  · refine (s.failsIn_resolve _).bind fun type _ => ?_
    split
    · exact failsIn_ok _
    · exact failsIn_fail rfl
    · exact failsIn_ok _

theorem failsIn_edits (within : List Name) (items : List AttributeItem) :
    FailsIn (·.kind = .schema) (s.edits within items) := by
  fun_induction edits s within items with
  | case1 => exact failsIn_ok []
  | case2 within declaration prohibited rest ih => exact ih.bind fun _ _ => failsIn_ok _
  | case3 within n rest ih => exact ih.bind fun _ _ => failsIn_ok _
  | case4 within n prohibited rest hp ih =>
    exact (failsIn_find .attributes s.attributes n).bind fun _ _ => ih.bind fun _ _ => failsIn_ok _
  | case5 within n rest hn ih => exact ih
  | case6 => exact failsIn_fail rfl
  | case7 within n rest hn items hi hitems hrest =>
    exact hitems.bind fun _ _ => hrest.bind fun _ _ => failsIn_ok _

theorem failsIn_ownContent (t : ComplexType) (inherited : Content) :
    FailsIn (·.kind = .schema) (s.ownContent t inherited) := by
  have happly : FailsIn (·.kind = .schema) (s.applyAttributes t.attributes inherited.attributes) :=
    (s.failsIn_edits [] t.attributes).bind fun _ _ => failsIn_ok _
  exact happly.bind fun _ _ => failsIn_ok _

theorem failsIn_complexContent (within : List Name) (t : ComplexType) :
    FailsIn (·.kind = .schema) (s.complexContent within t) := by
  fun_induction complexContent s within t with
  | case1 => exact s.failsIn_ownContent _ _
  | case2 => exact s.failsIn_ownContent _ _
  | case3 => exact failsIn_fail rfl
  | case4 => exact s.failsIn_ownContent _ _
  | case5 => exact failsIn_fail rfl
  | case6 within t method base _ _ baseType hb _ ih => exact ih.bind fun _ _ => s.failsIn_ownContent _ _

theorem failsIn_contentType (e : ElementDecl) : FailsIn (·.kind = .schema) (s.contentType e) := by
  refine (s.failsIn_elementType e).bind fun type _ => ?_
  cases type with
  | any => exact failsIn_ok _
  | builtin => exact failsIn_ok _
  | simple type => exact failsIn_ok _
  | complex t => exact (s.failsIn_complexContent _ t).bind fun _ _ => failsIn_ok _

theorem failsIn_extractAttributes (as : List AttributeDecl) :
    FailsIn (·.kind = .schema) (s.extractAttributes as).result := by
  induction as with
  | nil => exact failsIn_ok []
  | cons a as ih =>
    simp only [extractAttributes, Traced.result_bind, Traced.result_lift, Traced.result_line]
    have hshape : FailsIn (·.kind = .schema) (s.extractAttribute a) :=
      (s.failsIn_enumeration a).bind fun _ _ => failsIn_ok _
    exact hshape.bind fun _ _ => ih.bind fun _ _ => failsIn_ok _

/-! ## Walks -/

/-- A fault of the schema, or one of the particles in `P`, which is not modelled. -/
def AtParticle (P : Particle → Prop) (f : Fault) : Prop :=
  f.kind = .schema ∨ ∃ tag, P (.unsupported tag) ∧ f.cause = .unsupportedParticle tag

theorem AtParticle.mono {P Q : Particle → Prop} (hPQ : ∀ q, P q → Q q) (f : Fault) (h : AtParticle P f) :
    AtParticle Q f := by
  rcases h with h | ⟨tag, hp, hc⟩
  · exact .inl h
  · exact .inr ⟨tag, hPQ _ hp, hc⟩

variable {s}

theorem failsIn_leafDeclarations (p : Particle) : FailsIn (AtParticle (· = p)) (s.leafDeclarations p) := by
  cases p with
  | elementRef n =>
    exact ((failsIn_find .elements s.elements n).mono fun _ => .inl).bind fun _ _ => failsIn_ok _
  | unsupported tag => exact failsIn_fail (.inr ⟨tag, rfl, rfl⟩)
  | _ => exact failsIn_ok _

theorem failsIn_gather (entered : List Name) (ps : List Particle) :
    FailsIn (AtParticle (s.ReachedFrom entered ps)) (s.gather entered ps) := by
  fun_induction gather s entered ps with
  | case1 entered => exact failsIn_ok []
  | case2 entered compositor items rest ih =>
    refine ih.mono (AtParticle.mono fun q hq => ?_)
    rw [reachedFrom_cons, reachedFrom_group, or_assoc]
    exact .inr (reachedFrom_append.1 hq)
  | case3 entered n rest hn ih => exact ih.mono (AtParticle.mono fun q hq => reachedFrom_cons.2 (.inr hq))
  | case4 entered n rest hn hp => exact failsIn_fail (.inl rfl)
  | case5 entered n rest hn p hp ih =>
    exact ih.mono (AtParticle.mono fun q hq => (reachedFrom_groupRef hn hp).2 (.inr hq))
  | case6 entered p rest hg hr ih =>
    have hleaf : FailsIn (AtParticle (s.ReachedFrom entered (p :: rest))) (s.leafDeclarations p) := by
      refine (failsIn_leafDeclarations p).mono (AtParticle.mono fun q hq => ?_)
      rw [hq]
      exact .start (List.mem_cons_self ..)
    have hrest : FailsIn (AtParticle (s.ReachedFrom entered (p :: rest))) (s.gather entered rest) :=
      ih.mono (AtParticle.mono fun q hq => reachedFrom_cons.2 (.inr hq))
    exact hleaf.bind fun _ _ => hrest.bind fun _ _ => failsIn_ok _

/-- A walk that fails has come to a name that is not defined, or to a particle that is not modelled. -/
theorem failsIn_walk (p : Particle) : FailsIn (AtParticle (s.Reaches p)) (s.walk p).result := by
  rw [result_walk]
  exact (failsIn_gather [] [p]).mono (AtParticle.mono fun q => reaches_iff.2)

/-! ## Builds -/

/-- The particles that the content model of an element leads to. -/
def InContent (s : Schema) (e : ElementDecl) (q : Particle) : Prop :=
  ∃ content, s.contentType e = .ok (.complex content) ∧ s.Reaches content.particle q

/-- The declarations that the global elements lead to: themselves, and those that the content models of
declarations among them yield. -/
inductive LedTo (s : Schema) : ElementDecl → Prop
  | global {d : ElementDecl} : d ∈ s.elements.values → LedTo s d
  | child {e d : ElementDecl} {q : Particle} : LedTo s e → s.InContent e q → s.Yields q d → LedTo s d

theorem failsIn_extract (e : ElementDecl) (isTopLevel : Bool) :
    FailsIn (AtParticle (s.InContent e)) (s.extract e isTopLevel).result := by
  rw [result_extract]
  refine ((s.failsIn_contentType e).mono fun _ => .inl).bind fun content hc => ?_
  cases content with
  | simple => exact failsIn_ok _
  | complex content =>
    refine ((s.failsIn_extractAttributes _).mono fun _ => .inl).bind fun attributes _ => ?_
    have hwalk : FailsIn (AtParticle (s.InContent e)) (s.walk content.particle).result :=
      (failsIn_walk content.particle).mono (AtParticle.mono fun q hq => ⟨content, hc, hq⟩)
    exact hwalk.bind fun _ _ => failsIn_ok _

/-- The children of a declaration are led to when it is. -/
theorem LedTo.of_extract {e : ElementDecl} {isTopLevel : Bool} {shape : ElementShape} {children : List ElementDecl}
    (he : s.LedTo e) (h : (s.extract e isTopLevel).result = .ok (shape, children)) :
    ∀ d ∈ children, s.LedTo d := by
  rw [result_extract] at h
  obtain ⟨content, hc, h⟩ := Result.bind_eq_ok.1 h
  cases content with
  | simple =>
    cases h
    exact fun _ => nofun
  | complex content =>
    obtain ⟨attributes, -, h⟩ := Result.bind_eq_ok.1 h
    obtain ⟨declarations, hw, h⟩ := Result.bind_eq_ok.1 h
    cases h
    intro d hd
    have hwalked : d ∈ declarations := (mem_of_mem_firstOfEachName hd).1
    obtain ⟨q, hq, hy⟩ := ((s.lists_walk content.particle).mem_iff declarations hw d).1 hwalked
    exact he.child ⟨content, hc, hq⟩ hy

theorem failsIn_buildFrom {count : Nat} {graph : ShapeGraph} {pending : List ElementDecl} (hp : s.CoversAll pending)
    (hled : ∀ d ∈ pending, s.LedTo d) :
    FailsIn (AtParticle fun q => ∃ e, s.LedTo e ∧ s.InContent e q) (s.buildFrom count graph pending hp).result := by
  fun_induction buildFrom s count graph pending hp with
  | case1 graph => exact failsIn_ok graph
  | case2 graph d rest hp hd hp' ih => exact ih fun e he => hled e (List.mem_cons_of_mem _ he)
  | case3 graph d rest hp hd step reason hstep =>
    have hd : s.LedTo d := hled d (List.mem_cons_self ..)
    have hreason := failsIn_extract d _ reason (result_extractNext s count graph d ▸ hstep)
    exact failsIn_error (hreason.mono fun q hq => ⟨d, hd, hq⟩)
  -- what is still pending is led to: it was so before, or it is a child of what is taken up now
  | case4 graph d rest hp hd step shape children hstep more =>
    rename_i ih
    have hd : s.LedTo d := hled d (List.mem_cons_self ..)
    have hchildren : ∀ e ∈ children, s.LedTo e := hd.of_extract (result_extractNext s count graph d ▸ hstep)
    apply ih
    intro e he
    rcases List.mem_append.1 he with he | he
    · exact hled e (List.mem_cons_of_mem _ he)
    · exact hchildren e he

/-- A build fails at the first new declaration that no shape can be extracted from. -/
theorem result_buildFrom_of_error {count : Nat} {graph : ShapeGraph} {d : ElementDecl} {rest : List ElementDecl}
    (hp : s.CoversAll (d :: rest)) (hd : d.name ∉ graph.keys) {f : Fault}
    (h : (s.extract d (graph.size < count)).result = .error f) :
    (s.buildFrom count graph (d :: rest) hp).result = .error f := by
  rw [← result_extractNext] at h
  rw [buildFrom, dif_neg hd]
  simp only
  split
  · rename_i reason hr
    cases hr.symm.trans h
    rfl
  · rename_i shape children hr
    cases hr.symm.trans h

/-- A build that fails has met a fault of the schema, or a particle that is not modelled in the content model
of an element that the global elements lead to. -/
theorem failsIn_build (s : Schema) :
    FailsIn (AtParticle fun q => ∃ e, s.LedTo e ∧ s.InContent e q) s.build.result :=
  failsIn_buildFrom _ fun _ => .global

end Schema

/-! ## Sessions -/

theorem ShapeGraph.exists_hint_value (g : ShapeGraph) : ∃ members, g.hint.value = .object members := by
  rw [hint_eq_ofList, Json.value_object]
  exact ⟨_, rfl⟩

/-- A session with a schema fails to give shapes for a fault of the schema, or at a particle that is not
modelled, in the content model of an element that the global elements lead to. -/
theorem Session.shapes_error {s : Session} {schema : Schema} {f : Fault} (hs : s.schema = some schema)
    (hf : s.shapes.1 = .error f) :
    f.kind = .schema ∨ f.kind = .construct ∧ ∃ e tag, schema.LedTo e ∧ schema.InContent e (.unsupported tag) ∧
      f.cause = .unsupportedParticle tag := by
  simp only [Session.shapes, hs] at hf
  rcases schema.failsIn_build f hf with h | ⟨tag, ⟨e, he, hq⟩, hc⟩
  · exact .inl h
  · have hkind : f.kind = .construct := by
      rw [Fault.kind, hc]
      rfl
    exact .inr ⟨hkind, e, tag, he, hq, hc⟩

/-- What the steps of a session can fail with. A compilation fails with faults of the schema only. Shapes
are refused for want of a schema exactly when there is none; with a schema they fail with a fault of it, or
at a particle that is not modelled, in the content model of an element that the global elements lead to.
The text of the hints never fails: it is always an object in JSON. -/
theorem reported_kinds :
    (∀ files options path f, (Schema.compileFile files options path).result = .error f → f.kind = .schema) ∧
    (∀ (s : Session) files f, (s.compile files).1 = .error f → f.kind = .schema) ∧
    (∀ files text f, Schema.compileText files text = .error f → f.kind = .schema) ∧
    (∀ s : Session, s.schema = none ↔ ∃ f, s.shapes.1 = .error f ∧ f.kind = .usage) ∧
    (∀ (s : Session) schema f, s.schema = some schema → s.shapes.1 = .error f →
      f.kind = .schema ∨ f.kind = .construct ∧ ∃ e tag, schema.LedTo e ∧
        schema.InContent e (.unsupported tag) ∧ f.cause = .unsupportedParticle tag) ∧
    ∀ (g : ShapeGraph) indented, ∃ members, JsonValue.read? (g.hintText indented) = some (.object members) := by
  have hcompile (files : Files) (options : Schema.Options) (path : Path) (f : Fault)
      (hf : (Schema.compileFile files options path).result = .error f) : f.kind = .schema := by
    obtain ⟨location, h⟩ := Schema.failsIn_compileFile files options path f hf
    exact h.kind
  refine ⟨hcompile, ?_, Schema.failsIn_compileText, ?_, fun s schema f => Session.shapes_error, ?_⟩
  · intro s files f hf
    rw [(s.compile_result files).1] at hf
    exact hcompile files s.options s.path f hf
  · intro s
    constructor
    · intro hs
      simp only [Session.shapes, hs]
      exact ⟨_, rfl, rfl⟩
    · rintro ⟨f, hf, hk⟩
      rcases hs : s.schema with _ | schema
      · rfl
      · rcases Session.shapes_error hs hf with h | ⟨h, -⟩
        · rw [hk] at h
          cases h
        · rw [hk] at h
          cases h
  · intro g indented
    obtain ⟨members, hm⟩ := g.exists_hint_value
    exact ⟨members, by rw [g.read?_hintText indented, hm]⟩

/-- A document that includes another, which ends inside its root element. -/
def brokenPart : FileTree := .ofFiles
  [("main.xsd", Schema.documentBytes "" ["<xs:include schemaLocation='part.xsd'/>"]),
    ("part.xsd", Bytes.ofString "<xs:schema>")]

/-- An element whose content model is not modelled. -/
def unmodelledElement : Schema.ElementDecl :=
  .simple (.plain "a") (.inline (.complex ⟨none, none, false, .unsupported "openContent", []⟩))

/-- A schema with such an element. -/
def unmodelled : Schema := Schema.empty.addElements [unmodelledElement]

theorem reported_kinds_broken :
    (∃ f, (Schema.compileFile brokenPart.toFiles .standard (.ofString "main.xsd")).result = .error f ∧
      f.location = some "/part.xsd" ∧ f.kind = .schema) ∧
    (∃ e tag, unmodelled.LedTo e ∧ unmodelled.InContent e (.unsupported tag)) := by
  obtain ⟨hcompile, -, -, -, hshapes, -⟩ := reported_kinds
  have hbroken : (Schema.failedWithin brokenPart.toFiles .standard (.ofString "main.xsd") 1).map
      (fun f => f.location) = some (some "/part.xsd") := by
    decide +kernel
  have hextract : (unmodelled.extract unmodelledElement true).result = fail (.unsupportedParticle "openContent") := by
    cbv
  have hbuild : unmodelled.build.result = fail (.unsupportedParticle "openContent") :=
    Schema.result_buildFrom_of_error _ (by decide) hextract
  constructor
  · obtain ⟨f, hf, hlocation⟩ := Option.map_eq_some_iff.1 hbroken
    have hfailed := Schema.compileFile_of_failedWithin hf
    exact ⟨f, hfailed, hlocation, hcompile _ _ _ f hfailed⟩
  · have hs : (Session.mk (.ofString "main.xsd") .standard (.new none) (some unmodelled)).shapes.1 =
        fail (.unsupportedParticle "openContent") := hbuild
    rcases hshapes _ unmodelled _ rfl hs with h | ⟨-, e, tag, he, hq, -⟩
    · cases h
    · exact ⟨e, tag, he, hq⟩

end SchemaHints
