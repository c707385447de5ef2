/-
Adoption of a namespace. A document without a namespace of its own, included from one in `space`, is read
as if `space` were written out in it: as the target namespace of its root, and as the namespace of every
name that its bindings leave in none. So the reader may put an unprefixed reference into the namespace of
the including document when it resolves the reference, and need not touch the tree.

Each reader sees the bindings of a tree through the names that it resolves and in no other way. That gives
one equation for each reader, by induction on the tree, and every place where a name is made or resolved
comes down to `resolve_filled`.
-/
import SchemaHints.Schema.Document

namespace SchemaHints

/-! ## Writing a namespace out -/

namespace Xml

namespace Bindings

/-- `space` in place of no namespace. -/
def fill (space bound : String) : String := if bound = "" then space else bound

/-- The bindings with `space` as the default namespace if there is none, and for each prefix that stands for
none. -/
def filled (b : Bindings) (space : String) : Bindings :=
  { prefixes := b.prefixes.map fun p => (p.1, fill space p.2)
    default := fill space b.default }

/-- A prefix keeps its namespace if it has one; `xml` has one whatever is bound to it. -/
theorem space?_filled (b : Bindings) (space pfx : String) :
    (b.filled space).space? pfx = (b.space? pfx).map (fill space) := by
  unfold space?
  split
  · rfl
  · unfold filled
    simp only
    generalize b.prefixes = ps
    induction ps with
    | nil => rfl
    | cons p ps ih =>
      rw [List.map_cons, List.lookup_cons, List.lookup_cons]
      cases pfx == p.1 with
      | true => rfl
      | false => exact ih

/-- Names resolve as before, except that those in no namespace are in `space`. -/
theorem resolve_filled (b : Bindings) (space text : String) :
    (b.filled space).resolve text =
      (b.resolve text).map fun n => ⟨fill space n.space, n.localName⟩ := by
  unfold resolve
  split
  · rfl
  · rw [space?_filled]
    cases b.space? _ with
    | none => rfl
    | some _ => rfl

end Bindings

namespace Element

/-- The element with the value of an attribute set. -/
def withAttribute (e : Element) (key value : String) : Element :=
  { e with attributes := (.plain key, value) :: e.attributes.filter (·.1 ≠ .plain key) }

theorem attribute?_withAttribute (e : Element) (key value : String) :
    (e.withAttribute key value).attribute? key = some value := by
  unfold attribute? attributeNamed? withAttribute
  rw [List.lookup_cons, beq_self_eq_true]

theorem attribute?_withAttribute_of_ne (e : Element) {key key' : String} (h : key' ≠ key) (value : String) :
    (e.withAttribute key value).attribute? key' = e.attribute? key' := by
  have hname : (Name.plain key' == Name.plain key) = false :=
    beq_false_of_ne fun hn => h (congrArg Name.localName hn)
  unfold attribute? attributeNamed? withAttribute
  simp only
  rw [List.lookup_cons, hname]
  generalize e.attributes = as
  induction as with
  | nil => rfl
  | cons a as ih =>
    by_cases ha : a.1 = .plain key
    · rw [List.filter_cons_of_neg (by simpa using ha), List.lookup_cons, ha, hname]
      exact ih
    · rw [List.filter_cons_of_pos (by simpa using ha), List.lookup_cons, List.lookup_cons]
      cases Name.plain key' == a.1 with
      | true => rfl
      | false => exact ih

mutual

/-- The tree with the bindings of every node filled. -/
def filled (space : String) : Element → Element
  | ⟨name, attributes, bindings, children⟩ =>
    ⟨name, attributes, bindings.filled space, filledAll space children⟩

/-- The trees with the bindings of every node filled. -/
def filledAll (space : String) : List Element → List Element
  | [] => []
  | e :: es => filled space e :: filledAll space es

end

variable (space : String)

theorem filled_mk (name : Name) (attributes : List (Name × String)) (bindings : Bindings) (children : List Element) :
    filled space ⟨name, attributes, bindings, children⟩ =
      ⟨name, attributes, bindings.filled space, filledAll space children⟩ := rfl

theorem filledAll_eq_map (es : List Element) : filledAll space es = es.map (filled space) := by
  induction es with
  | nil => rfl
  | cons e es ih => rw [filledAll, ih, List.map_cons]

@[simp]
theorem name_filled (e : Element) : (e.filled space).name = e.name := by
  cases e
  rfl

@[simp]
theorem attribute?_filled (e : Element) (key : String) :
    (e.filled space).attribute? key = e.attribute? key := by
  cases e
  rfl

@[simp]
theorem bindings_filled (e : Element) : (e.filled space).bindings = e.bindings.filled space := by
  cases e
  rfl

@[simp]
theorem children_filled (e : Element) : (e.filled space).children = filledAll space e.children := by
  cases e
  rfl

/-- The tree of a document with its namespace written out. -/
def writtenOut (root : Element) : Element := (root.filled space).withAttribute "targetNamespace" space

end Element

end Xml

namespace Schema

open Xml (Element Bindings)

/-! ## Names -/

namespace Setting

/-- The setting of a document that adopts a namespace. -/
structure Adopts (s : Setting) : Prop where
  adopts : s.adopts = true
  target : s.target ≠ ""

/-- The setting when the document declares its namespace itself. -/
def declaring (s : Setting) : Setting := { s with adopts := false }

variable {s : Setting}

theorem required_filled (e : Element) (key : String) :
    s.declaring.required (e.filled s.target) key = s.required e key := by
  unfold required
  rw [Element.attribute?_filled, Element.name_filled]
  rfl

theorem globalName_filled (e : Element) : s.declaring.globalName (e.filled s.target) = s.globalName e := by
  unfold globalName
  rw [required_filled]
  rfl

theorem localName_filled (e : Element) (qualifiesByDefault : Bool) :
    s.declaring.localName (e.filled s.target) qualifiesByDefault = s.localName e qualifiesByDefault := by
  unfold localName
  rw [required_filled, Element.attribute?_filled]
  rfl

/-- A reference that the reader puts into the adopted namespace is in it already where the namespace is
written out, and any other reference stays as it is. -/
theorem resolve_filled (h : s.Adopts) (e : Element) (value : String) :
    s.declaring.resolve (e.filled s.target) value = s.resolve e value := by
  unfold resolve Element.resolve
  rw [Element.bindings_filled, Bindings.resolve_filled]
  cases e.bindings.resolve (Text.trim value) with
  | error reason => rfl
  | ok n =>
    have hadopt : s.declaring.adopt ⟨Bindings.fill s.target n.space, n.localName⟩ = s.adopt n := by
      unfold adopt Bindings.fill declaring
      by_cases hn : n.space = "" <;> simp [h.adopts, hn]
    exact congrArg Except.ok hadopt

theorem resolve?_filled (h : s.Adopts) (e : Element) (key : String) :
    s.declaring.resolve? (e.filled s.target) key = s.resolve? e key := by
  unfold resolve?
  rw [Element.attribute?_filled]
  cases e.attribute? key with
  | none => rfl
  | some value =>
    simp only
    rw [resolve_filled h]

end Setting

/-! ## Simple types -/

variable {s : Setting}

theorem childrenNamed_enumeration_filled (space : String) (e : Element) :
    ((e.filled space).childrenNamed "enumeration").filterMap (·.attribute? "value") =
      (e.childrenNamed "enumeration").filterMap (·.attribute? "value") := by
  unfold Element.childrenNamed
  rw [Element.children_filled, Element.filledAll_eq_map, List.filter_map, List.filterMap_map]
  simp [Function.comp_def]

mutual

theorem readSimpleType_filled (h : s.Adopts) (name : Option Name) :
    ∀ e : Element, readSimpleType s.declaring name (e.filled s.target) = readSimpleType s name e
  | ⟨_, _, _, children⟩ => by
    rw [Element.filled_mk, readSimpleType, readSimpleType, readVariety_filled h children]
    rfl

theorem readVariety_filled (h : s.Adopts) :
    ∀ es : List Element, readVariety s.declaring (Element.filledAll s.target es) = readVariety s es
  | [] => by rw [Element.filledAll, readVariety, readVariety]
  | ⟨name, attributes, bindings, children⟩ :: rest => by
    rw [Element.filledAll, Element.filled_mk, readVariety, readVariety]
    simp only [← Element.filled_mk, Setting.resolve?_filled h, childrenNamed_enumeration_filled, readInlineSimple_filled h children,
      readVariety_filled h rest]

theorem readInlineSimple_filled (h : s.Adopts) :
    ∀ es : List Element, readInlineSimple s.declaring (Element.filledAll s.target es) = readInlineSimple s es
  | [] => by rw [Element.filledAll, readInlineSimple, readInlineSimple]
  | ⟨name, attributes, bindings, children⟩ :: rest => by
    have htype := readSimpleType_filled h none ⟨name, attributes, bindings, children⟩
    rw [Element.filled_mk] at htype
    rw [Element.filledAll, Element.filled_mk, readInlineSimple, readInlineSimple]
    simp only [htype, readInlineSimple_filled h rest]

end

/-! ## Attributes -/

theorem readAttributeType_filled (h : s.Adopts) (e : Element) :
    readAttributeType s.declaring (e.filled s.target) = readAttributeType s e := by
  unfold readAttributeType
  rw [Setting.resolve?_filled h, Element.children_filled, readInlineSimple_filled h]

theorem readAttributeItem_filled (h : s.Adopts) (e : Element) :
    readAttributeItem s.declaring (e.filled s.target) = readAttributeItem s e := by
  have hlocal : s.declaring.localName (e.filled s.target) s.declaring.qualifiesAttributes =
      s.localName e s.qualifiesAttributes := Setting.localName_filled e _
  unfold readAttributeItem
  simp only [Element.name_filled, Element.attribute?_filled, Setting.resolve?_filled h, Setting.resolve_filled h,
    Setting.required_filled, hlocal, readAttributeType_filled h]

theorem readAttributeItems_filled (h : s.Adopts) (es : List Element) :
    readAttributeItems s.declaring (Element.filledAll s.target es) = readAttributeItems s es := by
  induction es with
  | nil => rfl
  | cons e es ih =>
    rw [Element.filledAll, readAttributeItems, readAttributeItems, readAttributeItem_filled h, ih]

/-! ## Content models and complex types -/

theorem occursNever_filled (space : String) (e : Element) : occursNever (e.filled space) = occursNever e := by
  unfold occursNever
  rw [Element.attribute?_filled]

mutual

theorem readParticle_filled (h : s.Adopts) :
    ∀ e : Element, readParticle s.declaring (e.filled s.target) = readParticle s e
  | ⟨name, attributes, bindings, children⟩ => by
    have hlocal (e : Element) : s.declaring.localName (e.filled s.target) s.declaring.qualifiesElements =
        s.localName e s.qualifiesElements := Setting.localName_filled e _
    rw [Element.filled_mk, readParticle, readParticle]
    simp only [← Element.filled_mk, occursNever_filled, Setting.resolve?_filled h, Setting.resolve_filled h,
      Setting.required_filled, hlocal, readInlineType_filled h children, readParticles_filled h children]

theorem readParticles_filled (h : s.Adopts) :
    ∀ es : List Element, readParticles s.declaring (Element.filledAll s.target es) = readParticles s es
  | [] => by rw [Element.filledAll, readParticles, readParticles]
  | e :: rest => by
    rw [Element.filledAll, readParticles, readParticles, readParticle_filled h e, readParticles_filled h rest]

theorem readInlineType_filled (h : s.Adopts) :
    ∀ es : List Element, readInlineType s.declaring (Element.filledAll s.target es) = readInlineType s es
  | [] => by rw [Element.filledAll, readInlineType, readInlineType]
  | ⟨name, attributes, bindings, children⟩ :: rest => by
    have htype := readSimpleType_filled h none ⟨name, attributes, bindings, children⟩
    rw [Element.filled_mk] at htype
    rw [Element.filledAll, Element.filled_mk, readInlineType, readInlineType]
    simp only [htype, readDraft_filled h children, readInlineType_filled h rest]

theorem readDraft_filled (h : s.Adopts) :
    ∀ es : List Element, readDraft s.declaring (Element.filledAll s.target es) = readDraft s es
  | [] => by rw [Element.filledAll, readDraft, readDraft]
  | ⟨name, attributes, bindings, children⟩ :: rest => by
    have hparticle := readParticle_filled h ⟨name, attributes, bindings, children⟩
    have hitem := readAttributeItem_filled h ⟨name, attributes, bindings, children⟩
    rw [Element.filled_mk] at hparticle hitem
    rw [Element.filledAll, Element.filled_mk, readDraft, readDraft]
    simp only [hparticle, hitem, readDerivations_filled h _ children, readDraft_filled h rest]

theorem readDerivations_filled (h : s.Adopts) (simple : Bool) :
    ∀ es : List Element, readDerivations s.declaring simple (Element.filledAll s.target es) = readDerivations s simple es
  | [] => by rw [Element.filledAll, readDerivations, readDerivations]
  | ⟨name, attributes, bindings, children⟩ :: rest => by
    rw [Element.filledAll, Element.filled_mk, readDerivations, readDerivations]
    simp only [← Element.filled_mk, Setting.required_filled, Setting.resolve_filled h, readDerived_filled h _ children,
      readDerivations_filled h _ rest]

theorem readDerived_filled (h : s.Adopts) (simple : Bool) :
    ∀ es : List Element, readDerived s.declaring simple (Element.filledAll s.target es) = readDerived s simple es
  | [] => by rw [Element.filledAll, readDerived, readDerived]
  | ⟨name, attributes, bindings, children⟩ :: rest => by
    have hparticle := readParticle_filled h ⟨name, attributes, bindings, children⟩
    have hitem := readAttributeItem_filled h ⟨name, attributes, bindings, children⟩
    rw [Element.filled_mk] at hparticle hitem
    rw [Element.filledAll, Element.filled_mk, readDerived, readDerived]
    simp only [hparticle, hitem, readDerived_filled h _ rest]

end

theorem readComplexType_filled (h : s.Adopts) (name : Option Name) (e : Element) :
    readComplexType s.declaring name (e.filled s.target) = readComplexType s name e := by
  unfold readComplexType
  rw [Element.children_filled, readDraft_filled h]

theorem readElementType_filled (h : s.Adopts) (e : Element) :
    readElementType s.declaring (e.filled s.target) = readElementType s e := by
  unfold readElementType
  rw [Setting.resolve?_filled h, Element.children_filled, readInlineType_filled h]

theorem readGroup_filled (h : s.Adopts) (e : Element) :
    readGroup s.declaring (e.filled s.target) = readGroup s e := by
  unfold readGroup
  rw [Element.children_filled]
  induction e.children with
  | nil => rfl
  | cons c rest ih =>
    rw [Element.filledAll, List.findSome?_cons, List.findSome?_cons, Element.name_filled]
    cases Compositor.ofTag? c.name.localName with
    | none => exact ih
    | some compositor =>
      simp only [Option.map_some]
      rw [Element.children_filled, readParticles_filled h]

/-! ## Documents -/

theorem readGlobalElement_filled (h : s.Adopts) (e : Element) :
    readGlobalElement s.declaring (e.filled s.target) = readGlobalElement s e := by
  unfold readGlobalElement
  rw [Setting.globalName_filled, readElementType_filled h, Setting.resolve?_filled h, Element.attribute?_filled]
  rfl

theorem readItem_filled (h : s.Adopts) (e : Element) :
    readItem s.declaring (e.filled s.target) = readItem s e := by
  unfold readItem
  rw [Element.name_filled]
  generalize Word.of e.name.localName = word
  cases word with
  | element => simp only [readGlobalElement_filled h]
  | complexType => simp only [Setting.globalName_filled, readComplexType_filled h]
  | simpleType => simp only [Setting.globalName_filled, readSimpleType_filled h]
  | group => simp only [Setting.globalName_filled, readGroup_filled h]
  | attributeGroup => simp only [Setting.globalName_filled, Element.children_filled, readAttributeItems_filled h]
  | attributeUse => simp only [Setting.globalName_filled, readAttributeType_filled h]
  | includes | redefines => simp only [Setting.required_filled]
  | imports => simp only [Element.attribute?_filled]
  | _ => rfl

theorem mapM_readItem_filled (h : s.Adopts) (es : List Element) :
    (Element.filledAll s.target es).mapM (readItem s.declaring) = es.mapM (readItem s) := by
  induction es with
  | nil => rw [Element.filledAll, List.mapM_nil, List.mapM_nil]
  | cons e es ih => rw [Element.filledAll, List.mapM_cons, List.mapM_cons, readItem_filled h, ih]

theorem declaredTarget_writtenOut {space : String} (hs : Text.trim space = space) (root : Element) :
    declaredTarget (root.writtenOut space) = space := by
  unfold declaredTarget Element.writtenOut
  rw [Element.attribute?_withAttribute]
  exact hs

/-- The root of an included document settles the same with the namespace written out, but that nothing is
adopted then. -/
theorem Setting.of_writtenOut {root : Element} {space : String} (hroot : declaredTarget root = "")
    (hspace : space ≠ "") (htrim : Text.trim space = space) (location : String) :
    Setting.of (root.writtenOut space) location (.included space) =
        (Setting.of root location (.included space)).map declaring ∧
      ∀ s, Setting.of root location (.included space) = .ok s → s.Adopts ∧ s.target = space := by
  have hattribute {key : String} (hkey : key ≠ "targetNamespace") :
      (root.writtenOut space).attribute? key = root.attribute? key := by
    unfold Element.writtenOut
    rw [Element.attribute?_withAttribute_of_ne _ hkey, Element.attribute?_filled]
  have hname : (root.writtenOut space).name = root.name := Element.name_filled space root
  simp only [Setting.of, declaredTarget_writtenOut htrim, hroot, hname]
  split
  · exact ⟨rfl, nofun⟩
  · rw [hattribute (by decide), hattribute (by decide), hattribute (by decide)]
    simp only [if_true]
    refine ⟨rfl, fun s hs => ?_⟩
    cases hs
    exact ⟨⟨decide_eq_true hspace, hspace⟩, rfl⟩

/-- An included document that has no namespace of its own is read as the same document with the namespace
of the including one written out: as its target namespace, and at every node as the namespace of the
unprefixed references, and of the prefixes, that have none. Both readings give the same document or fail
with the same fault. -/
theorem read_writtenOut {root : Element} {space : String} (hroot : declaredTarget root = "") (hspace : space ≠ "")
    (htrim : Text.trim space = space) (location : String) :
    Document.read (root.writtenOut space) location (.included space) =
      Document.read root location (.included space) := by
  obtain ⟨hsetting, hadopts⟩ := Setting.of_writtenOut hroot hspace htrim location
  have hchildren : (root.writtenOut space).children = Element.filledAll space root.children :=
    Element.children_filled space root
  unfold Document.read
  rw [hsetting, hchildren]
  cases hs : Setting.of root location (.included space) with
  | error fault => rfl
  | ok s =>
    obtain ⟨ha, rfl⟩ := hadopts s hs
    have hitems := mapM_readItem_filled ha root.children
    simp only [Except.map, Result.ok_bind, hitems]
    rfl

/-! ## A document of parts -/

/-- A node of a schema document with an unbound default namespace and a prefix for no namespace. -/
def partsNode (tag : String) (attributes : List (String × String)) (children : List Element) : Element :=
  ⟨⟨schemaNamespace, tag⟩, attributes.map fun a => (.plain a.1, a.2),
    ⟨[("xs", schemaNamespace), ("none", "")], ""⟩, children⟩

/-- A document without a namespace of its own: a part is in a substitution group, and its type is an
extension of another with a reference to a part. -/
def partsRoot : Element :=
  partsNode "schema" [("elementFormDefault", "qualified")]
    [partsNode "element" [("name", "part"), ("substitutionGroup", "item")]
      [partsNode "complexType" [] [partsNode "complexContent" [] [partsNode "extension" [("base", "none:item")]
        [partsNode "sequence" [] [partsNode "element" [("ref", "part")] [],
          partsNode "element" [("name", "size"), ("type", "xs:string")] []]]]]]]

theorem read_writtenOut_parts :
    declaredTarget partsRoot = "" ∧ Text.trim "urn:main" = "urn:main" ∧
      ((Document.read partsRoot "parts.xsd" (.included "urn:main")).toOption.map fun d =>
        (d.target, d.elements.map fun e => (e.name, e.head))) =
        some ("urn:main", [(⟨"urn:main", "part"⟩, some ⟨"urn:main", "item"⟩)]) ∧
      Document.read (partsRoot.writtenOut "urn:main") "parts.xsd" (.included "urn:main") =
        Document.read partsRoot "parts.xsd" (.included "urn:main") :=
  ⟨by decide, by decide, by decide +kernel, read_writtenOut (by decide) (by decide) (by decide) _⟩

end Schema

end SchemaHints
