/-
Faults of documents. A file and its markup are at fault in kinds that no caller tells apart: the file
cannot be read, a limit is exceeded, the markup is broken, or a prefix has no binding. The components in
an element tree are at fault in one kind only, that of the schema: there a prefix without a binding is no
more than the reason why a value names nothing. Either list of causes is closed, and the second kind of
fault always says which document it is about.
-/
import SchemaHints.Files
import SchemaHints.Proofs.Fault.Result
import SchemaHints.Schema.Document

namespace SchemaHints

open Result

/-! ## Causes -/

namespace Cause

/-- Whether a file or its markup can be at fault in this way. -/
def ofMarkup : Cause → Bool
  | unreadableFile .. | tooLarge .. | tooDeep .. | malformed .. | badTag .. | unclosedElement
  | unknownPrefix .. | unknownElementPrefix .. => true
  | _ => false

/-- Whether the components of a document can be at fault in this way. -/
def ofDocument : Cause → Bool
  | notASchema .. | foreignInclude .. | missingAttribute .. | unresolved .. | emptySimpleType .. => true
  | _ => false

theorem isReported_of_ofMarkup {c : Cause} (h : c.ofMarkup = true) : c.kind.isReported = false := by
  cases c <;> first | rfl | cases h

end Cause

/-- A fault in the components of the document at `location`. -/
structure Fault.OfDocument (location : String) (f : Fault) : Prop where
  cause : f.cause.ofDocument = true
  location : f.location = some location

/-! ## Files and markup -/

namespace Limits

theorem failsIn_checkDepth (l : Limits) (n : Nat) : FailsIn (·.cause.ofMarkup = true) (l.checkDepth n) :=
  failsIn_refuse rfl

theorem failsIn_checkSize (l : Limits) (n : Nat) : FailsIn (·.cause.ofMarkup = true) (l.checkSize n) :=
  failsIn_refuse rfl

end Limits

namespace Xml

/-- A name that cannot be resolved has a prefix without a binding. -/
theorem Bindings.cause_of_resolve {b : Bindings} {text : String} {cause : Cause} (h : b.resolve text = .error cause) :
    ∃ pfx, cause = .unknownPrefix pfx := by
  unfold resolve at h
  split at h
  · cases h
  · split at h <;> cases h
    exact ⟨_, rfl⟩

theorem failsIn_expandAttributes (b : Bindings) (attributes : List (String × String)) (done : List (Name × String)) :
    FailsIn (·.cause.ofMarkup = true) (expandAttributes b attributes done) := by
  fun_induction expandAttributes b attributes done with
  | case1 done => exact failsIn_ok done
  | case2 _ _ _ _ _ ih => exact ih
  | case3 _ _ _ _ _ _ ih => exact ih
  | case4 _ _ _ _ _ _ _ _ _ ih => exact ih
  | case5 key value rest done hd value' hs cause hr =>
    obtain ⟨pfx, rfl⟩ := Bindings.cause_of_resolve hr
    exact failsIn_fail rfl

theorem failsIn_expandTagName (b : Bindings) (text : String) :
    FailsIn (·.cause.ofMarkup = true) (expandTagName b text) := by
  unfold expandTagName
  split
  · exact failsIn_ok _
  · split
    · exact failsIn_ok _
    · exact failsIn_fail rfl

theorem Element.failsIn_ofTag (outer : Bindings) (tag : Tag) :
    FailsIn (·.cause.ofMarkup = true) (Element.ofTag outer tag) :=
  (failsIn_expandTagName _ _).bind fun _ _ => (failsIn_expandAttributes _ _ _).bind fun _ _ => failsIn_ok _

namespace Partial

theorem failsIn_enter (limits : Limits) (p : Partial) (tag : Except TagFault Tag) :
    FailsIn (·.cause.ofMarkup = true) (p.enter limits tag) := by
  refine (limits.failsIn_checkDepth _).bind fun _ _ => ?_
  cases tag with
  | error reason => exact failsIn_fail rfl
  | ok tag => exact Element.failsIn_ofTag _ tag

theorem failsIn_take (limits : Limits) (p : Partial) (event : Event) :
    FailsIn (·.cause.ofMarkup = true) (p.take limits event) := by
  cases event with
  | opening tag => exact (p.failsIn_enter limits tag).bind fun _ _ => failsIn_ok _
  | selfClosing tag => exact (p.failsIn_enter limits tag).bind fun _ _ => failsIn_ok _
  | closing =>
    rw [take]
    split
    · exact failsIn_ok p
    · exact failsIn_ok _
  | malformed position reason => exact failsIn_fail rfl

theorem failsIn_takeAll (limits : Limits) (p : Partial) (events : List Event) :
    FailsIn (·.cause.ofMarkup = true) (p.takeAll limits events) := by
  induction events generalizing p with
  | nil => exact failsIn_ok p
  | cons event events ih => exact (p.failsIn_take limits event).bind fun q _ => ih q

end Partial

theorem failsIn_rootOf (limits : Limits) (document : Bytes) :
    FailsIn (·.cause.ofMarkup = true) (rootOf limits document) := by
  refine (Partial.failsIn_takeAll _ _ _).bind fun p _ => ?_
  split
  · exact failsIn_ok p.root
  · exact failsIn_fail rfl

end Xml

theorem Found.failsIn_root (limits : Limits) (f : Found) :
    FailsIn (·.cause.ofMarkup = true) (f.root limits) := by
  have hbytes : FailsIn (·.cause.ofMarkup = true) (f.bytes limits) := by
    unfold Found.bytes
    split
    · exact failsIn_fail rfl
    · exact (limits.failsIn_checkSize _).bind fun _ _ => failsIn_ok _
  exact hbytes.bind fun content _ => Xml.failsIn_rootOf limits content

namespace Schema

open Xml (Element)

/-! ## Names in a document -/

theorem failsIn_failAt {α : Type} {location : String} {cause : Cause} (h : cause.ofDocument = true) :
    FailsIn (·.OfDocument location) (failAt location cause : Result α) :=
  failsIn_error ⟨h, rfl⟩

namespace Setting

/-- The setting of a document knows where the document is. -/
theorem location_of {root : Element} {location : String} {role : Role} {s : Setting}
    (h : Setting.of root location role = .ok s) : s.location = location := by
  simp only [Setting.of] at h
  split at h
  · cases h
  · split at h
    · cases h
      rfl
    · cases h
      rfl
    · split at h
      · cases h
        rfl
      · split at h <;> cases h
        rfl

theorem failsIn_of (root : Element) (location : String) (role : Role) :
    FailsIn (·.OfDocument location) (Setting.of root location role) := by
  simp only [Setting.of]
  split
  · exact failsIn_failAt rfl
  · split
    · exact failsIn_ok _
    · exact failsIn_ok _
    · split
      · exact failsIn_ok _
      · split
        · exact failsIn_ok _
        · exact failsIn_failAt rfl

variable (s : Setting) (e : Element)

theorem failsIn_required (key : String) : FailsIn (·.OfDocument s.location) (s.required e key) := by
  unfold required
  split
  · exact failsIn_ok _
  · exact failsIn_failAt rfl

theorem failsIn_resolve (value : String) : FailsIn (·.OfDocument s.location) (s.resolve e value) := by
  unfold resolve
  split
  · exact failsIn_ok _
  · exact failsIn_failAt rfl

theorem failsIn_resolve? (key : String) : FailsIn (·.OfDocument s.location) (s.resolve? e key) := by
  unfold resolve?
  split
  · exact failsIn_ok _
  · exact (s.failsIn_resolve e _).bind fun _ _ => failsIn_ok _

theorem failsIn_globalName : FailsIn (·.OfDocument s.location) (s.globalName e) :=
  (s.failsIn_required e _).bind fun _ _ => failsIn_ok _

theorem failsIn_localName (qualifiesByDefault : Bool) :
    FailsIn (·.OfDocument s.location) (s.localName e qualifiesByDefault) :=
  (s.failsIn_required e _).bind fun _ _ => failsIn_ok _

end Setting

/-! ## Types and attributes -/

variable (s : Setting)

mutual

theorem failsIn_readSimpleType (name : Option Name) :
    ∀ e : Element, FailsIn (·.OfDocument s.location) (readSimpleType s name e)
  | ⟨_, _, _, children⟩ => by
    rw [readSimpleType]
    refine (failsIn_readVariety children).bind fun variety _ => ?_
    cases variety with
    | none => exact failsIn_failAt rfl
    | some variety => exact failsIn_ok _

theorem failsIn_readVariety : ∀ es : List Element, FailsIn (·.OfDocument s.location) (readVariety s es)
  | [] => by
    rw [readVariety]
    exact failsIn_ok none
  | ⟨name, attributes, bindings, children⟩ :: rest => by
    rw [readVariety]
    split
    · refine (s.failsIn_resolve? _ _).bind fun base _ => ?_
      cases base with
      | none => exact (failsIn_readInlineSimple children).bind fun _ _ => failsIn_ok _
      | some base => exact failsIn_ok _
    · exact failsIn_ok _
    · exact failsIn_ok _
    · exact failsIn_readVariety rest

theorem failsIn_readInlineSimple : ∀ es : List Element, FailsIn (·.OfDocument s.location) (readInlineSimple s es)
  | [] => by
    rw [readInlineSimple]
    exact failsIn_ok none
  | ⟨name, attributes, bindings, children⟩ :: rest => by
    rw [readInlineSimple]
    split
    · exact (failsIn_readSimpleType none ⟨name, attributes, bindings, children⟩).bind fun _ _ => failsIn_ok _
    · exact failsIn_readInlineSimple rest

end

theorem failsIn_readAttributeType (e : Element) : FailsIn (·.OfDocument s.location) (readAttributeType s e) := by
  refine (s.failsIn_resolve? e _).bind fun type _ => ?_
  cases type with
  | none => exact failsIn_readInlineSimple s e.children
  | some type => exact failsIn_ok _

theorem failsIn_readAttributeItem (e : Element) : FailsIn (·.OfDocument s.location) (readAttributeItem s e) := by
  unfold readAttributeItem
  split
  · refine (s.failsIn_resolve? e _).bind fun ref _ => ?_
    cases ref with
    | none =>
      exact (s.failsIn_localName e _).bind fun _ _ => (failsIn_readAttributeType s e).bind fun _ _ => failsIn_ok _
    | some ref => exact failsIn_ok _
  · exact (s.failsIn_required e _).bind fun _ _ => (s.failsIn_resolve e _).bind fun _ _ => failsIn_ok _
  · exact failsIn_ok none

theorem failsIn_readAttributeItems (es : List Element) :
    FailsIn (·.OfDocument s.location) (readAttributeItems s es) := by
  induction es with
  | nil => exact failsIn_ok []
  | cons e es ih => exact (failsIn_readAttributeItem s e).bind fun _ _ => ih.bind fun _ _ => failsIn_ok _

/-! ## Content models and complex types -/

mutual

theorem failsIn_readParticle : ∀ e : Element, FailsIn (·.OfDocument s.location) (readParticle s e)
  | ⟨name, attributes, bindings, children⟩ => by
    rw [readParticle]
    split
    · exact failsIn_ok none
    split
    · refine (s.failsIn_resolve? _ _).bind fun ref _ => ?_
      cases ref with
      | some ref => exact failsIn_ok _
      | none =>
        refine (s.failsIn_localName _ _).bind fun _ _ => (s.failsIn_resolve? _ _).bind fun type _ => ?_
        cases type with
        | some type => exact failsIn_ok _
        | none => exact (failsIn_readInlineType children).bind fun _ _ => failsIn_ok _
    · exact (failsIn_readParticles children).bind fun _ _ => failsIn_ok _
    · exact (s.failsIn_required _ _).bind fun _ _ => (s.failsIn_resolve _ _).bind fun _ _ => failsIn_ok _
    · exact failsIn_ok _
    · exact failsIn_ok none
    · exact failsIn_ok _

theorem failsIn_readParticles : ∀ es : List Element, FailsIn (·.OfDocument s.location) (readParticles s es)
  | [] => by
    rw [readParticles]
    exact failsIn_ok []
  | e :: rest => by
    rw [readParticles]
    exact (failsIn_readParticle e).bind fun _ _ => (failsIn_readParticles rest).bind fun _ _ => failsIn_ok _

theorem failsIn_readInlineType : ∀ es : List Element, FailsIn (·.OfDocument s.location) (readInlineType s es)
  | [] => by
    rw [readInlineType]
    exact failsIn_ok _
  | ⟨name, attributes, bindings, children⟩ :: rest => by
    rw [readInlineType]
    split
    · exact (failsIn_readDraft children).bind fun _ _ => failsIn_ok _
    · exact (failsIn_readSimpleType s none _).bind fun _ _ => failsIn_ok _
    · exact failsIn_readInlineType rest

theorem failsIn_readDraft : ∀ es : List Element, FailsIn (·.OfDocument s.location) (readDraft s es)
  | [] => by
    rw [readDraft]
    exact failsIn_ok _
  | ⟨name, attributes, bindings, children⟩ :: rest => by
    have hparticle := failsIn_readParticle ⟨name, attributes, bindings, children⟩
    have hitem := failsIn_readAttributeItem s ⟨name, attributes, bindings, children⟩
    have hrest (draft : Draft) : FailsIn (·.OfDocument s.location) (do
        let drafts ← readDraft s rest
        .ok (draft ++ drafts)) := (failsIn_readDraft rest).bind fun _ _ => failsIn_ok _
    rw [readDraft]
    split
    · exact hparticle.bind fun _ _ => hrest _
    · exact hparticle.bind fun _ _ => hrest _
    · exact hitem.bind fun _ _ => hrest _
    · exact hitem.bind fun _ _ => hrest _
    · exact (failsIn_readDerivations false children).bind fun _ _ => hrest _
    · exact (failsIn_readDerivations true children).bind fun _ _ => hrest _
    all_goals exact hrest _

theorem failsIn_readDerivations (simple : Bool) :
    ∀ es : List Element, FailsIn (·.OfDocument s.location) (readDerivations s simple es)
  | [] => by
    rw [readDerivations]
    exact failsIn_ok _
  | ⟨name, attributes, bindings, children⟩ :: rest => by
    have hrest (draft : Draft) : FailsIn (·.OfDocument s.location) (do
        let drafts ← readDerivations s simple rest
        .ok (draft ++ drafts)) := (failsIn_readDerivations simple rest).bind fun _ _ => failsIn_ok _
    rw [readDerivations]
    split
    · refine (s.failsIn_required _ _).bind fun _ _ => (s.failsIn_resolve _ _).bind fun _ _ => ?_
      exact (failsIn_readDerived simple children).bind fun _ _ => hrest _
    · exact hrest _

theorem failsIn_readDerived (simple : Bool) :
    ∀ es : List Element, FailsIn (·.OfDocument s.location) (readDerived s simple es)
  | [] => by
    rw [readDerived]
    exact failsIn_ok _
  | ⟨name, attributes, bindings, children⟩ :: rest => by
    have hparticle := failsIn_readParticle ⟨name, attributes, bindings, children⟩
    have hitem := failsIn_readAttributeItem s ⟨name, attributes, bindings, children⟩
    have hrest (draft : Draft) : FailsIn (·.OfDocument s.location) (do
        let drafts ← readDerived s simple rest
        .ok (draft ++ drafts)) := (failsIn_readDerived simple rest).bind fun _ _ => failsIn_ok _
    rw [readDerived]
    split
    · exact hitem.bind fun _ _ => hrest _
    · exact hitem.bind fun _ _ => hrest _
    · exact hrest _
    · exact hrest _
    · exact hrest _
    · split
      · exact hrest _
      · exact hparticle.bind fun _ _ => hrest _

end

theorem failsIn_readElementType (e : Element) : FailsIn (·.OfDocument s.location) (readElementType s e) := by
  refine (s.failsIn_resolve? e _).bind fun type _ => ?_
  cases type with
  | none => exact failsIn_readInlineType s e.children
  | some type => exact failsIn_ok _

theorem failsIn_readGroup (e : Element) : FailsIn (·.OfDocument s.location) (readGroup s e) := by
  unfold readGroup
  split
  · exact (failsIn_readParticles s _).bind fun _ _ => failsIn_ok _
  · exact failsIn_ok _

/-! ## Documents -/

theorem failsIn_readGlobalElement (e : Element) : FailsIn (·.OfDocument s.location) (readGlobalElement s e) :=
  (s.failsIn_globalName e).bind fun _ _ => (failsIn_readElementType s e).bind fun _ _ =>
    (s.failsIn_resolve? e _).bind fun _ _ => failsIn_ok _

theorem failsIn_readItem (e : Element) : FailsIn (·.OfDocument s.location) (readItem s e) := by
  have hname {α : Type} {read : Name → Result α} (hread : ∀ name, FailsIn (·.OfDocument s.location) (read name)) :
      FailsIn (·.OfDocument s.location) (s.globalName e >>= read) :=
    (s.failsIn_globalName e).bind fun name _ => hread name
  unfold readItem
  generalize Word.of e.name.localName = word
  cases word with
  | element => exact (failsIn_readGlobalElement s e).bind fun _ _ => failsIn_ok _
  | complexType => exact hname fun _ => ((failsIn_readDraft s _).bind fun _ _ => failsIn_ok _).bind fun _ _ => failsIn_ok _
  | simpleType => exact hname fun _ => (failsIn_readSimpleType s _ e).bind fun _ _ => failsIn_ok _
  | group => exact hname fun _ => (failsIn_readGroup s e).bind fun _ _ => failsIn_ok _
  | attributeGroup => exact hname fun _ => (failsIn_readAttributeItems s _).bind fun _ _ => failsIn_ok _
  | attributeUse => exact hname fun _ => (failsIn_readAttributeType s e).bind fun _ _ => failsIn_ok _
  | includes | redefines => exact (s.failsIn_required e _).bind fun _ _ => failsIn_ok _
  | _ => exact failsIn_ok _

/-- A document without components is at fault itself. -/
theorem Document.failsIn_read (root : Element) (location : String) (role : Role) :
    FailsIn (·.OfDocument location) (Document.read root location role) := by
  refine (Setting.failsIn_of root location role).bind fun s hs => ?_
  have hitems : FailsIn (·.OfDocument location) (root.children.mapM (readItem s)) := by
    rw [← Setting.location_of hs]
    exact failsIn_mapM fun e _ => failsIn_readItem s e
  exact hitems.bind fun _ _ => failsIn_ok _

end Schema

end SchemaHints
