/-
Compiled schemas: the components of all documents of a schema in one table for each kind, where the
first declaration of a name wins. Elements and attributes stand under the names that they declare.
Names are looked up when a component is used.
-/
import SchemaHints.Keyed
import SchemaHints.Location.Path
import SchemaHints.Schema.Document

namespace SchemaHints

open Schema

/-- The tables of a schema, the namespace that its primary document declares, whether some document
imports the XML namespace, and the files that contributed, in the order in which they were read. -/
structure Schema where
  target : String
  elements : Keyed Name ElementDecl
  types : Keyed Name TypeDef
  groups : Keyed Name Particle
  attributeGroups : Keyed Name (List AttributeItem)
  attributes : Keyed Name AttributeDecl
  importsXml : Bool
  sources : List Path
  elementsNamed : ∀ e ∈ elements.entries, e.2.name = e.1
  attributesNamed : ∀ e ∈ attributes.entries, e.2.name = e.1

namespace Schema

/-- The schema without components. -/
def empty : Schema :=
  ⟨"", .empty, .empty, .empty, .empty, .empty, false, [], fun _ h => (List.not_mem_nil h).elim,
    fun _ h => (List.not_mem_nil h).elim⟩

/-- Adds elements, each unless its name is taken. -/
def addElements (s : Schema) (es : List ElementDecl) : Schema :=
  { s with
    elements := s.elements.insertAllNew (es.map fun e => (e.name, e))
    elementsNamed := Keyed.forall_insertAllNew s.elementsNamed (by simp) }

/-- Adds attributes, each unless its name is taken. -/
def addAttributes (s : Schema) (as : List AttributeDecl) : Schema :=
  { s with
    attributes := s.attributes.insertAllNew (as.map fun a => (a.name, a))
    attributesNamed := Keyed.forall_insertAllNew s.attributesNamed (by simp) }

/-- Adds the components of a document. -/
def merge (s : Schema) (d : Document) : Schema :=
  { (s.addElements d.elements).addAttributes d.attributes with
    types := s.types.insertAllNew d.types
    groups := s.groups.insertAllNew d.groups
    attributeGroups := s.attributeGroups.insertAllNew d.attributeGroups }

/-- The names under which elements are stored are the names that they declare. -/
theorem map_name_elements (s : Schema) : s.elements.values.map (·.name) = s.elements.keys := by
  rw [Keyed.values, Keyed.keys, List.map_map]
  exact List.map_congr_left s.elementsNamed

theorem nodup_name_elements (s : Schema) : (s.elements.values.map (·.name)).Nodup := by
  rw [map_name_elements]
  exact s.elements.nodup

/-- A global element is the one of its name. -/
theorem get?_name_of_mem {s : Schema} {e : ElementDecl} (he : e ∈ s.elements.values) : s.elements.get? e.name = some e := by
  obtain ⟨⟨n, _⟩, hentry, rfl⟩ := List.mem_map.1 he
  rw [s.elementsNamed _ hentry]
  exact Keyed.get?_eq_some_iff.2 hentry

/-- The element of a name is the one, among all, that declares it. -/
theorem find?_elements (s : Schema) (n : Name) :
    s.elements.values.find? (·.name = n) = s.elements.get? n := by
  have hnamed := s.elementsNamed
  unfold Keyed.values Keyed.get?
  generalize s.elements.entries = es at hnamed ⊢
  induction es with
  | nil => rfl
  | cons e es ih =>
    have hrest := ih fun e' h => hnamed e' (List.mem_cons_of_mem _ h)
    rw [List.map_cons, List.find?_cons, List.lookup_cons, hnamed e (List.mem_cons_self ..), hrest]
    by_cases hn : n = e.1
    · simp [hn]
    · rw [beq_false_of_ne hn, decide_eq_false (Ne.symm hn)]

/-! ## Looking up names -/

/-- The entry of a table under a name. -/
def find {α : Type} (table : Table) (entries : Keyed Name α) (n : Name) : Result α :=
  match entries.get? n with
  | some a => .ok a
  | none => fail (.undefined table n)

theorem find_eq_ok_iff {α : Type} {table : Table} {entries : Keyed Name α} {n : Name} {a : α} :
    find table entries n = .ok a ↔ entries.get? n = some a := by
  unfold find
  cases entries.get? n with
  | none => constructor <;> intro h <;> cases h
  | some b => rw [Except.ok.injEq, Option.some.injEq]

/-- The global element of a name. -/
def globalElement (s : Schema) (n : Name) : Result ElementDecl := find .elements s.elements n

theorem mem_elements_of_globalElement {s : Schema} {n : Name} {d : ElementDecl} (h : s.globalElement n = .ok d) :
    d ∈ s.elements.values := Keyed.mem_values_of_get? (find_eq_ok_iff.1 h)

theorem name_of_globalElement {s : Schema} {n : Name} {d : ElementDecl} (h : s.globalElement n = .ok d) : d.name = n :=
  s.elementsNamed _ (Keyed.get?_eq_some_iff.1 (find_eq_ok_iff.1 h))

/-- The content of the group of a name. -/
def namedGroup (s : Schema) (n : Name) : Result Particle := find .groups s.groups n

/-- The global attribute of a name. -/
def globalAttribute (s : Schema) (n : Name) : Result AttributeDecl := find .attributes s.attributes n

/-- What a reference to a type comes to. -/
inductive ResolvedType
  | any
  | builtin
  | simple (type : SimpleType)
  | complex (type : ComplexType)

/-- The definition as a resolved type. -/
def ResolvedType.ofDef : TypeDef → ResolvedType
  | .simple type => .simple type
  | .complex type => .complex type

/-- The type of a name; every name in the namespace of XML Schema is built in. -/
def typeNamed (s : Schema) (n : Name) : Result ResolvedType :=
  if isSchemaNamespace n.space then .ok (if n.localName = "anyType" then .any else .builtin)
  else do
    let definition ← find .types s.types n
    .ok (.ofDef definition)

theorem typeNamed_eq_complex {s : Schema} {n : Name} {t : ComplexType} : s.typeNamed n = .ok (.complex t) ↔
    ¬ isSchemaNamespace n.space = true ∧ s.types.get? n = some (.complex t) := by
  unfold typeNamed
  by_cases hn : isSchemaNamespace n.space = true
  · rw [if_pos hn]
    constructor
    · intro h
      split at h <;> cases h
    · exact fun h => absurd hn h.1
  · rw [if_neg hn, Result.bind_eq_ok]
    constructor
    · rintro ⟨definition, hd, h⟩
      cases definition with
      | simple type => cases h
      | complex type =>
        cases h
        exact ⟨hn, find_eq_ok_iff.1 hd⟩
    · exact fun h => ⟨_, find_eq_ok_iff.2 h.2, rfl⟩

theorem typeNamed_eq_undefined {s : Schema} {n : Name} : s.typeNamed n = fail (.undefined .types n) ↔
    ¬ isSchemaNamespace n.space = true ∧ s.types.get? n = none := by
  unfold typeNamed find
  by_cases hn : isSchemaNamespace n.space = true
  · rw [if_pos hn]
    exact ⟨nofun, fun h => absurd hn h.1⟩
  · rw [if_neg hn]
    cases s.types.get? n with
    | none => exact ⟨fun _ => ⟨hn, rfl⟩, fun _ => rfl⟩
    | some definition => exact ⟨nofun, fun h => by cases h.2⟩

/-- The type that a reference comes to. -/
def resolve (s : Schema) : TypeRef → Result ResolvedType
  | .named n => s.typeNamed n
  | .inline definition => .ok (.ofDef definition)
  | .any => .ok .any

/-! ## Types of elements -/

/-- The number of table entries whose keys are not in a list: what is left to visit. -/
def unvisited {α : Type} (entries : Keyed Name α) (seen : List Name) : Nat :=
  (entries.keys.filter fun n => n ∉ seen).length

theorem unvisited_lt {α : Type} {entries : Keyed Name α} {seen : List Name} {n : Name} {a : α}
    (h : entries.get? n = some a) (hn : n ∉ seen) :
    unvisited entries (n :: seen) < unvisited entries seen := by
  have hk := Keyed.mem_keys_of_get? h
  unfold unvisited
  have hsub : (entries.keys.filter fun m => m ∉ n :: seen) =
      (entries.keys.filter fun m => m ∉ seen).filter (· ≠ n) := by
    rw [List.filter_filter]
    refine List.filter_congr fun m _ => ?_
    simp [List.mem_cons, not_or]
  rw [hsub]
  refine List.length_filter_lt_length_iff_exists.2 ⟨n, List.mem_filter.2 ⟨hk, by simpa using hn⟩, by simp⟩

/-- The type that an untyped element takes from the substitution groups above it, starting with the
head `head`; a chain that comes back to an element in `seen` gives any type. -/
def inheritedType (s : Schema) (seen : List Name) (head : Option Name) : Result ResolvedType :=
  match head with
  | none => .ok .any
  | some n =>
    if _hn : n ∈ seen then .ok .any
    else match _h : s.elements.get? n with
      | none => fail (.undefined .substitutionHeads n)
      | some declaration => match declaration.type with
        | .any => s.inheritedType (n :: seen) declaration.head
        | type => s.resolve type
termination_by unvisited s.elements seen
decreasing_by exact unvisited_lt _h _hn

theorem inheritedType_none (s : Schema) (seen : List Name) : s.inheritedType seen none = .ok .any := by rw [inheritedType]

theorem inheritedType_seen {s : Schema} {seen : List Name} {n : Name} (hn : n ∈ seen) :
    s.inheritedType seen (some n) = .ok .any := by
  rw [inheritedType, dif_pos hn]

theorem inheritedType_undeclared {s : Schema} {seen : List Name} {n : Name} (hn : n ∉ seen) (hget : s.elements.get? n = none) :
    s.inheritedType seen (some n) = fail (.undefined .substitutionHeads n) := by
  rw [inheritedType, dif_neg hn]
  grind

/-- The type that comes from a head is that of the head, or one that the head inherits. -/
theorem inheritedType_of_head {s : Schema} {seen : List Name} {n : Name} {declaration : ElementDecl}
    (hn : n ∉ seen) (hd : s.elements.get? n = some declaration) :
    s.inheritedType seen (some n) = match declaration.type with
      | .any => s.inheritedType (n :: seen) declaration.head
      | type => s.resolve type := by
  rw [inheritedType, dif_neg hn]
  grind

/-- The type of an element; an untyped member of a substitution group has the type of its head. -/
def elementType (s : Schema) (e : ElementDecl) : Result ResolvedType :=
  match e.type with
  | .any => s.inheritedType [e.name] e.head
  | type => s.resolve type

theorem elementType_of_any {s : Schema} {d : ElementDecl} (hany : d.type = .any) :
    s.elementType d = s.inheritedType [d.name] d.head := by
  unfold elementType
  rw [hany]

theorem elementType_of_typed {s : Schema} {d : ElementDecl} (htype : d.type = .any → False) :
    s.elementType d = s.resolve d.type := by
  unfold elementType
  split
  · exact absurd ‹_› htype
  · rfl

/-! ## Values of attributes -/

/-- The values that an attribute is restricted to, in schema order; none when it is not. -/
def enumeration (s : Schema) (a : AttributeDecl) : Result (List String) :=
  match a.type with
  | none => .ok []
  | some type => do
    match ← s.resolve type with
    | .simple ⟨_, .restriction _ values⟩ => .ok values
    | .complex _ => fail (.complexAttribute a.name)
    | _ => .ok []

end Schema

end SchemaHints
