/-
The content of a type: its attributes and its content particle once derivation and attribute groups
are applied. An extension adds to what its base has, a restriction keeps the attributes of its base
except the prohibited ones, and simple content has attributes only.
-/
import SchemaHints.Schema.Basic

namespace SchemaHints.Schema

/-! ## Attributes -/

/-- What an entry in a list of attributes does to a table of attributes. -/
inductive Edit
  | set (declaration : AttributeDecl)
  | remove (name : Name)

/-- The edits of a list of attributes with its groups replaced by what they hold. A group inside
itself, as `within` tells, adds nothing. -/
def edits (s : Schema) (within : List Name) : List AttributeItem → Result (List Edit)
  | [] => .ok []
  | .declared declaration prohibited :: rest => do
    let more ← s.edits within rest
    .ok ((if prohibited then .remove declaration.name else .set declaration) :: more)
  | .attributeRef n prohibited :: rest =>
    if prohibited then do
      let more ← s.edits within rest
      .ok (.remove n :: more)
    else do
      let declaration ← s.globalAttribute n
      let more ← s.edits within rest
      .ok (.set declaration :: more)
  | .groupRef n :: rest =>
    if _hn : n ∈ within then s.edits within rest
    else match _h : s.attributeGroups.get? n with
      | none => fail (.undefined .attributeGroups n)
      | some items => do
        let inner ← s.edits (n :: within) items
        let more ← s.edits within rest
        .ok (inner ++ more)
termination_by items => (unvisited s.attributeGroups within, items.length)
decreasing_by
  all_goals simp_wf
  all_goals first
    | exact Prod.Lex.left _ _ (unvisited_lt _h _hn)
    | exact Prod.Lex.right _ (Nat.lt_succ_self _)

theorem edits_of_group {s : Schema} {within : List Name} {n : Name} {items : List AttributeItem}
    (hn : n ∉ within) (hi : s.attributeGroups.get? n = some items) (rest : List AttributeItem) :
    s.edits within (.groupRef n :: rest) = (do
      let inner ← s.edits (n :: within) items
      let more ← s.edits within rest
      .ok (inner ++ more)) := by
  rw [edits, dif_neg hn]
  grind

/-- Applies an edit to a table of attributes: a name that is set again keeps its place. -/
def Edit.apply (attributes : Keyed Name AttributeDecl) : Edit → Keyed Name AttributeDecl
  | set declaration => attributes.insert declaration.name declaration
  | remove n => attributes.erase n

/-- Applies a list of attributes to a table of attributes. -/
def applyAttributes (s : Schema) (items : List AttributeItem) (attributes : Keyed Name AttributeDecl) :
    Result (Keyed Name AttributeDecl) := do
  let edits ← s.edits [] items
  .ok (edits.foldl Edit.apply attributes)

/-! ## Complex types -/

/-- The attributes and the content particle of a complex type. -/
structure Content where
  attributes : Keyed Name AttributeDecl
  particle : Particle

namespace Content

/-- No attributes and no content. -/
def empty : Content := ⟨.empty, .empty⟩

/-- What a type derived by `t` takes over from the content of its base. -/
def inherited (method : DerivationMethod) (t : ComplexType) (base : Content) : Content :=
  ⟨base.attributes, if method = .extension ∧ !t.hasSimpleContent then base.particle else .empty⟩

end Content

/-- The content that a complex type adds to what it takes over. -/
def ownContent (s : Schema) (t : ComplexType) (inherited : Content) : Result Content := do
  let attributes ← s.applyAttributes t.attributes inherited.attributes
  .ok ⟨attributes,
    if t.hasSimpleContent then inherited.particle else .sequenceOf inherited.particle t.particle⟩

/-- The content of a complex type; `within` holds the names of the types that are being derived from
it, and of itself. -/
def complexContent (s : Schema) (within : List Name) (t : ComplexType) : Result Content :=
  match t.derivation with
  | none => s.ownContent t .empty
  | some ⟨method, base⟩ =>
    if isSchemaNamespace base.space then s.ownContent t .empty
    else match _h : s.types.get? base with
      | none => fail (.undefined .types base)
      | some (.simple _) => s.ownContent t .empty
      | some (.complex baseType) =>
        if _hn : base ∈ within then fail (.circularDerivation base)
        else do
          let content ← s.complexContent (base :: within) baseType
          s.ownContent t (content.inherited method t)
termination_by unvisited s.types within
decreasing_by exact unvisited_lt _h _hn

theorem complexContent_of_plain {s : Schema} {within : List Name} {t : ComplexType} (ht : t.derivation = none) :
    s.complexContent within t = s.ownContent t .empty := by
  rw [complexContent, ht]

theorem complexContent_of_builtin {s : Schema} {within : List Name} {t : ComplexType} {method : DerivationMethod}
    {base : Name} (ht : t.derivation = some ⟨method, base⟩) (hb : isSchemaNamespace base.space = true) :
    s.complexContent within t = s.ownContent t .empty := by
  rw [complexContent, ht]
  exact if_pos hb

theorem complexContent_of_undefined {s : Schema} {within : List Name} {t : ComplexType} {method : DerivationMethod}
    {base : Name} (ht : t.derivation = some ⟨method, base⟩) (hb : ¬ isSchemaNamespace base.space = true)
    (hd : s.types.get? base = none) : s.complexContent within t = fail (.undefined .types base) := by
  rw [complexContent, ht]
  grind

theorem complexContent_of_simple {s : Schema} {within : List Name} {t : ComplexType} {method : DerivationMethod}
    {base : Name} {type : SimpleType} (ht : t.derivation = some ⟨method, base⟩)
    (hb : ¬ isSchemaNamespace base.space = true) (hd : s.types.get? base = some (.simple type)) :
    s.complexContent within t = s.ownContent t .empty := by
  rw [complexContent, ht]
  grind

theorem complexContent_of_circular {s : Schema} {within : List Name} {t baseType : ComplexType}
    {method : DerivationMethod} {base : Name} (ht : t.derivation = some ⟨method, base⟩)
    (hb : ¬ isSchemaNamespace base.space = true) (hd : s.types.get? base = some (.complex baseType))
    (hn : base ∈ within) : s.complexContent within t = fail (.circularDerivation base) := by
  rw [complexContent, ht]
  grind

theorem complexContent_of_complex {s : Schema} {within : List Name} {t baseType : ComplexType}
    {method : DerivationMethod} {base : Name} (ht : t.derivation = some ⟨method, base⟩)
    (hb : ¬ isSchemaNamespace base.space = true) (hd : s.types.get? base = some (.complex baseType))
    (hn : base ∉ within) :
    s.complexContent within t = (do
      let content ← s.complexContent (base :: within) baseType
      s.ownContent t (content.inherited method t)) := by
  rw [complexContent, ht]
  grind

/-! ## Content of elements -/

/-- The content of an element: text, or attributes and children. -/
inductive ContentType
  | simple
  | complex (content : Content)

/-- The content of a resolved type. -/
def ResolvedType.content (s : Schema) : ResolvedType → Result ContentType
  | .builtin | .simple _ => .ok .simple
  | .any => .ok (.complex .empty)
  | .complex t => do
    let content ← s.complexContent t.name.toList t
    .ok (.complex content)

/-- The content of an element. -/
def contentType (s : Schema) (e : ElementDecl) : Result ContentType := do
  let type ← s.elementType e
  type.content s

end SchemaHints.Schema
