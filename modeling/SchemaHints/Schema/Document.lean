/-
Schema documents. The root element of a document is read into the components that it declares and
the references to other documents that it makes, in document order. A document that is included
without a namespace of its own takes the one of the document that includes it: its declarations and
its unprefixed references are then all in that namespace.
-/
import SchemaHints.Schema.Vocabulary
import SchemaHints.Xml.Document

namespace SchemaHints.Schema

open Xml (Element)

/-! ## What holds throughout a document -/

/-- How a document came to be read. -/
inductive Role
  | primary
  | included (target : String)
  | imported
  deriving DecidableEq

/-- What the root of a document settles for everything in it: where it is, its effective target
namespace and whether that was taken from an including document, and its defaults. -/
structure Setting where
  location : String
  target : String
  adopts : Bool
  qualifiesElements : Bool
  qualifiesAttributes : Bool
  blocksSubstitution : Bool

/-- The target namespace that a root element declares. -/
def declaredTarget (root : Element) : String :=
  Text.trim ((root.attribute? "targetNamespace").getD "")

/-- Whether the value of a form attribute asks for qualified names. -/
def isQualified (form : Option String) : Bool := form.map Text.trim = some "qualified"

/-- Whether the value of a block attribute rules out substitution. -/
def blocks (value : Option String) : Bool :=
  value.any fun v => (Text.words v).any fun w => w = "substitution" || w = "#all"

/-- The setting of a document with this root. -/
def Setting.of (root : Element) (location : String) (role : Role) : Result Setting := do
  if root.name.localName ≠ "schema" ∨ !isSchemaNamespace root.name.space then
    failAt location (.notASchema root.name)
  let declared := declaredTarget root
  let setting (target : String) (adopts : Bool) : Setting :=
    { location := location
      target := target
      adopts := adopts
      qualifiesElements := isQualified (root.attribute? "elementFormDefault")
      qualifiesAttributes := isQualified (root.attribute? "attributeFormDefault")
      blocksSubstitution := blocks (root.attribute? "blockDefault") }
  match role with
  | .primary | .imported => .ok (setting declared false)
  | .included includer =>
    if declared = "" then .ok (setting includer (includer ≠ ""))
    else if declared = includer then .ok (setting declared false)
    else failAt location (.foreignInclude declared includer)

namespace Setting

/-- The value of an attribute that must be there. -/
def required (s : Setting) (e : Element) (key : String) : Result String :=
  match e.attribute? key with
  | some value => .ok (Text.trim value)
  | none => failAt s.location (.missingAttribute e.name.localName key)

/-- A name as this document means it. -/
def adopt (s : Setting) (n : Name) : Name :=
  if s.adopts ∧ n.space = "" then ⟨s.target, n.localName⟩ else n

/-- The name that a value stands for at an element. -/
def resolve (s : Setting) (e : Element) (value : String) : Result Name :=
  match e.resolve value with
  | .ok n => .ok (s.adopt n)
  | .error reason => failAt s.location (.unresolved value reason)

/-- The name in an attribute, if the attribute is there. -/
def resolve? (s : Setting) (e : Element) (key : String) : Result (Option Name) :=
  match e.attribute? key with
  | none => .ok none
  | some value => do
    let n ← s.resolve e value
    .ok (some n)

/-- The name of a global component. -/
def globalName (s : Setting) (e : Element) : Result Name := do
  let localName ← s.required e "name"
  .ok ⟨s.target, localName⟩

/-- The name of a local element or attribute, in the target namespace when its form is qualified. -/
def localName (s : Setting) (e : Element) (qualifiesByDefault : Bool) : Result Name := do
  let localName ← s.required e "name"
  let qualified := match e.attribute? "form" with
    | some form => isQualified (some form)
    | none => qualifiesByDefault
  .ok (if qualified then ⟨s.target, localName⟩ else .plain localName)

end Setting

/-- The type that a name refers to; the type of everything needs no definition. -/
def TypeRef.ofName (n : Name) : TypeRef :=
  if n.localName = "anyType" ∧ isSchemaNamespace n.space then .any else .named n

/-! ## Simple types -/

mutual

/-- Reads a simple type. -/
def readSimpleType (s : Setting) (name : Option Name) : Element → Result SimpleType
  | ⟨_, _, _, children⟩ => do
    match ← readVariety s children with
    | some variety => .ok ⟨name, variety⟩
    | none => failAt s.location (.emptySimpleType name)

/-- Reads the variety of a simple type from the first child that says one. -/
def readVariety (s : Setting) : List Element → Result (Option Variety)
  | [] => .ok none
  | e@⟨name, _, _, children⟩ :: rest => match Word.of name.localName with
    | .derivation .restriction => do
      let base ← match ← s.resolve? e "base" with
        | some n => .ok (some (TypeRef.ofName n))
        | none => readInlineSimple s children
      .ok (some (.restriction base ((e.childrenNamed "enumeration").filterMap (·.attribute? "value"))))
    | .list => .ok (some .list)
    | .union => .ok (some .union)
    | _ => readVariety s rest

/-- Reads the first simple type among children. -/
def readInlineSimple (s : Setting) : List Element → Result (Option TypeRef)
  | [] => .ok none
  | e@⟨name, _, _, _⟩ :: rest => match Word.of name.localName with
    | .simpleType => do
      let type ← readSimpleType s none e
      .ok (some (.inline (.simple type)))
    | _ => readInlineSimple s rest

end

/-! ## Attributes -/

/-- Reads the type of an attribute. -/
def readAttributeType (s : Setting) (e : Element) : Result (Option TypeRef) := do
  match ← s.resolve? e "type" with
  | some n => .ok (some (TypeRef.ofName n))
  | none => readInlineSimple s e.children

/-- Reads an entry in a list of attributes, if the element is one. -/
def readAttributeItem (s : Setting) (e : Element) : Result (Option AttributeItem) :=
  match Word.of e.name.localName with
  | .attributeUse => do
    let prohibited := (e.attribute? "use").map Text.trim = some "prohibited"
    match ← s.resolve? e "ref" with
    | some n => .ok (some (.attributeRef n prohibited))
    | none => do
      let name ← s.localName e s.qualifiesAttributes
      let type ← readAttributeType s e
      .ok (some (.declared ⟨name, type⟩ prohibited))
  | .attributeGroup => do
    let value ← s.required e "ref"
    let n ← s.resolve e value
    .ok (some (.groupRef n))
  | _ => .ok none

/-- Reads a list of attributes. -/
def readAttributeItems (s : Setting) : List Element → Result (List AttributeItem)
  | [] => .ok []
  | e :: rest => do
    let item ← readAttributeItem s e
    let items ← readAttributeItems s rest
    .ok (item.toList ++ items)

/-! ## Content models and complex types -/

/-- What the children of a complex type say of it, each on its own; of two derivations, or of two
kinds of content, the later counts. -/
structure Draft where
  derivation : Option Derivation := none
  simpleContent : Option Bool := none
  parts : List Particle := []
  attributes : List AttributeItem := []

namespace Draft

/-- What earlier and later children say together. -/
def append (a b : Draft) : Draft :=
  { derivation := b.derivation <|> a.derivation
    simpleContent := b.simpleContent <|> a.simpleContent
    parts := a.parts ++ b.parts
    attributes := a.attributes ++ b.attributes }

instance : Append Draft := ⟨append⟩

/-- The complex type that a draft amounts to. -/
def complexType (d : Draft) (name : Option Name) : ComplexType :=
  ⟨name, d.derivation, d.simpleContent.getD false, .combine d.parts, d.attributes⟩

end Draft

/-- Whether an element does not occur at all. -/
def occursNever (e : Element) : Bool := (e.attribute? "maxOccurs").map Text.trim = some "0"

mutual

/-- Reads a particle of a content model; notes and what occurs never are none. -/
def readParticle (s : Setting) : Element → Result (Option Particle)
  | e@⟨name, _, _, children⟩ =>
    if occursNever e then .ok none
    else match Word.of name.localName with
      | .element => do
        match ← s.resolve? e "ref" with
        | some n => .ok (some (.elementRef n))
        | none => do
          let name ← s.localName e s.qualifiesElements
          let type ← match ← s.resolve? e "type" with
            | some n => .ok (TypeRef.ofName n)
            | none => readInlineType s children
          .ok (some (.localElement (.simple name type)))
      | .compositor c => do
        let items ← readParticles s children
        .ok (some (.group c items))
      | .group => do
        let value ← s.required e "ref"
        let n ← s.resolve e value
        .ok (some (.groupRef n))
      | .any => .ok (some .any)
      | .note => .ok none
      | _ => .ok (some (.unsupported name.localName))

/-- Reads the particles of a group. -/
def readParticles (s : Setting) : List Element → Result (List Particle)
  | [] => .ok []
  | e :: rest => do
    let p ← readParticle s e
    let ps ← readParticles s rest
    .ok (p.toList ++ ps)

/-- Reads the first type definition among the children of an element declaration. -/
def readInlineType (s : Setting) : List Element → Result TypeRef
  | [] => .ok .any
  | e@⟨name, _, _, children⟩ :: rest => match Word.of name.localName with
    | .complexType => do
      let draft ← readDraft s children
      .ok (.inline (.complex (draft.complexType none)))
    | .simpleType => do
      let type ← readSimpleType s none e
      .ok (.inline (.simple type))
    | _ => readInlineType s rest

/-- Reads the children of a complex type. -/
def readDraft (s : Setting) : List Element → Result Draft
  | [] => .ok {}
  | e@⟨name, _, _, children⟩ :: rest => do
    let draft ← match Word.of name.localName with
      | .compositor _ | .group => do
        let p ← readParticle s e
        .ok { parts := p.toList : Draft }
      | .attributeUse | .attributeGroup => do
        let item ← readAttributeItem s e
        .ok { attributes := item.toList : Draft }
      | .complexContent => do
        let draft ← readDerivations s false children
        .ok ({ simpleContent := some false : Draft } ++ draft)
      | .simpleContent => do
        let draft ← readDerivations s true children
        .ok ({ simpleContent := some true : Draft } ++ draft)
      | .note | .anyAttribute | .assertion => .ok {}
      | _ => .ok { parts := [.unsupported name.localName] : Draft }
    let drafts ← readDraft s rest
    .ok (draft ++ drafts)

/-- Reads the derivations in the content of a complex type. -/
def readDerivations (s : Setting) (simple : Bool) : List Element → Result Draft
  | [] => .ok {}
  | e@⟨name, _, _, children⟩ :: rest => do
    let draft ← match Word.of name.localName with
      | .derivation method => do
        let value ← s.required e "base"
        let base ← s.resolve e value
        let draft ← readDerived s simple children
        .ok ({ derivation := some ⟨method, base⟩ : Draft } ++ draft)
      | _ => .ok {}
    let drafts ← readDerivations s simple rest
    .ok (draft ++ drafts)

/-- Reads the children of a derivation; in simple content only attributes count. -/
def readDerived (s : Setting) (simple : Bool) : List Element → Result Draft
  | [] => .ok {}
  | e@⟨name, _, _, _⟩ :: rest => do
    let draft ← match Word.of name.localName with
      | .attributeUse | .attributeGroup => do
        let item ← readAttributeItem s e
        .ok { attributes := item.toList : Draft }
      | .note | .anyAttribute | .assertion => .ok {}
      | _ =>
        if simple then .ok {}
        else do
          let p ← readParticle s e
          .ok { parts := p.toList : Draft }
    let drafts ← readDerived s simple rest
    .ok (draft ++ drafts)

end

/-- Reads a complex type. -/
def readComplexType (s : Setting) (name : Option Name) (e : Element) : Result ComplexType := do
  let draft ← readDraft s e.children
  .ok (draft.complexType name)

/-- Reads the type of an element declaration. -/
def readElementType (s : Setting) (e : Element) : Result TypeRef := do
  match ← s.resolve? e "type" with
  | some n => .ok (TypeRef.ofName n)
  | none => readInlineType s e.children

/-- Reads the content of a named group from its first compositor. -/
def readGroup (s : Setting) (e : Element) : Result Particle :=
  match e.children.findSome? fun c => (Compositor.ofTag? c.name.localName).map (·, c) with
  | some (compositor, c) => do
    let items ← readParticles s c.children
    .ok (.group compositor items)
  | none => .ok .empty

/-! ## Documents -/

/-- The ways in which a document refers to another. -/
inductive ReferenceKind
  | includes
  | imports
  | redefines
  deriving DecidableEq

/-- A reference to another document: where it is said to be, and for an import the namespace. -/
structure Reference where
  kind : ReferenceKind
  location : Option String
  space : Option String
  deriving DecidableEq

/-- What a child of the root contributes to a document. -/
inductive Item
  | element (declaration : ElementDecl)
  | type (name : Name) (definition : TypeDef)
  | group (name : Name) (particle : Particle)
  | attributes (name : Name) (items : List AttributeItem)
  | globalAttribute (declaration : AttributeDecl)
  | reference (reference : Reference)
  | skipped (tag : String)
  | nothing

/-- Reads a global element declaration. -/
def readGlobalElement (s : Setting) (e : Element) : Result ElementDecl := do
  let name ← s.globalName e
  let type ← readElementType s e
  let head ← s.resolve? e "substitutionGroup"
  let blocksSubstitution := match e.attribute? "block" with
    | some value => blocks (some value)
    | none => s.blocksSubstitution
  .ok ⟨name, type, head, blocksSubstitution⟩

/-- Reads a child of the root. -/
def readItem (s : Setting) (e : Element) : Result Item :=
  match Word.of e.name.localName with
  | .element => do
    let declaration ← readGlobalElement s e
    .ok (.element declaration)
  | .complexType => do
    let name ← s.globalName e
    let type ← readComplexType s (some name) e
    .ok (.type name (.complex type))
  | .simpleType => do
    let name ← s.globalName e
    let type ← readSimpleType s (some name) e
    .ok (.type name (.simple type))
  | .group => do
    let name ← s.globalName e
    let particle ← readGroup s e
    .ok (.group name particle)
  | .attributeGroup => do
    let name ← s.globalName e
    let items ← readAttributeItems s e.children
    .ok (.attributes name items)
  | .attributeUse => do
    let name ← s.globalName e
    let type ← readAttributeType s e
    .ok (.globalAttribute ⟨name, type⟩)
  | .includes => do
    let location ← s.required e "schemaLocation"
    .ok (.reference ⟨.includes, some location, none⟩)
  | .redefines => do
    let location ← s.required e "schemaLocation"
    .ok (.reference ⟨.redefines, some location, none⟩)
  | .imports =>
    .ok (.reference ⟨.imports, (e.attribute? "schemaLocation").map Text.trim, e.attribute? "namespace"⟩)
  | .note | .notationDecl | .defaultOpenContent => .ok .nothing
  | _ => .ok (.skipped e.name.localName)

/-- A schema document: its effective target namespace and what the children of its root contribute. -/
structure Document where
  target : String
  items : List Item

namespace Document

/-- The global elements of a document. -/
def elements (d : Document) : List ElementDecl :=
  d.items.filterMap fun | .element declaration => some declaration | _ => none

/-- The global types of a document. -/
def types (d : Document) : List (Name × TypeDef) :=
  d.items.filterMap fun | .type name definition => some (name, definition) | _ => none

/-- The named groups of a document. -/
def groups (d : Document) : List (Name × Particle) :=
  d.items.filterMap fun | .group name particle => some (name, particle) | _ => none

/-- The attribute groups of a document. -/
def attributeGroups (d : Document) : List (Name × List AttributeItem) :=
  d.items.filterMap fun | .attributes name items => some (name, items) | _ => none

/-- The global attributes of a document. -/
def attributes (d : Document) : List AttributeDecl :=
  d.items.filterMap fun | .globalAttribute declaration => some declaration | _ => none

/-- The references that a document makes. -/
def references (d : Document) : List Reference :=
  d.items.filterMap fun | .reference reference => some reference | _ => none

/-- The tags of the children of the root that mean nothing. -/
def skipped (d : Document) : List String :=
  d.items.filterMap fun | .skipped tag => some tag | _ => none

/-- Reads the document with this root. -/
def read (root : Element) (location : String) (role : Role) : Result Document := do
  let s ← Setting.of root location role
  let items ← root.children.mapM (readItem s)
  .ok ⟨s.target, items⟩

end Document

end SchemaHints.Schema
