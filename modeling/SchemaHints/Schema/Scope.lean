/-
The names that a schema can ever declare an element under: those of its global elements and those of
the local declarations inside its elements, types and groups, at any depth. Everything that looking
up, derivation and substitution produce stays among them, which is why following children of
children comes to an end.

What stays among the declarations of a schema is shown for any property that these have, so that it
holds of their names and of the declarations themselves.
-/
import SchemaHints.Schema.Content
import SchemaHints.Schema.Substitution

namespace SchemaHints.Schema

/-! ## Declared names -/

mutual

/-- The names declared in a particle. -/
def Particle.declared : Particle → List Name
  | .group _ items => declaredInAll items
  | .localElement declaration => declaration.declared
  | _ => []

/-- The names declared in some particles. -/
def declaredInAll : List Particle → List Name
  | [] => []
  | p :: ps => p.declared ++ declaredInAll ps

/-- The names declared by an element declaration: its own and those in its type. -/
def ElementDecl.declared : ElementDecl → List Name
  | ⟨name, type, _, _⟩ => name :: type.declared

/-- The names declared in an inline type. -/
def TypeRef.declared : TypeRef → List Name
  | .inline definition => definition.declared
  | _ => []

/-- The names declared in a type definition. -/
def TypeDef.declared : TypeDef → List Name
  | .complex type => type.declared
  | _ => []

/-- The names declared in a complex type. -/
def ComplexType.declared : ComplexType → List Name
  | ⟨_, _, _, particle, _⟩ => particle.declared

end

/-- The names under which a schema declares elements anywhere. -/
def scope (s : Schema) : List Name :=
  s.elements.values.flatMap ElementDecl.declared ++ s.types.values.flatMap TypeDef.declared
    ++ s.groups.values.flatMap Particle.declared

/-- A list of names within the scope of a schema. -/
def Covers (s : Schema) (names : List Name) : Prop := ∀ n ∈ names, n ∈ s.scope

/-! ## Declarations -/

mutual

/-- The declarations in a particle. -/
def Particle.declarations : Particle → List ElementDecl
  | .group _ items => declarationsInAll items
  | .localElement declaration => declaration.declarations
  | _ => []

/-- The declarations in some particles. -/
def declarationsInAll : List Particle → List ElementDecl
  | [] => []
  | p :: ps => p.declarations ++ declarationsInAll ps

/-- An element declaration and those in its type. -/
def ElementDecl.declarations : ElementDecl → List ElementDecl
  | ⟨name, type, head, blocks⟩ => ⟨name, type, head, blocks⟩ :: type.declarations

/-- The declarations in an inline type. -/
def TypeRef.declarations : TypeRef → List ElementDecl
  | .inline definition => definition.declarations
  | _ => []

/-- The declarations in a type definition. -/
def TypeDef.declarations : TypeDef → List ElementDecl
  | .complex type => type.declarations
  | _ => []

/-- The declarations in a complex type. -/
def ComplexType.declarations : ComplexType → List ElementDecl
  | ⟨_, _, _, particle, _⟩ => particle.declarations

end

/-- The declarations in a resolved type. -/
def ResolvedType.declarations : ResolvedType → List ElementDecl
  | .complex t => t.declarations
  | _ => []

/-- The element declarations anywhere in a schema. -/
def declarations (s : Schema) : List ElementDecl :=
  s.elements.values.flatMap ElementDecl.declarations ++ s.types.values.flatMap TypeDef.declarations
    ++ s.groups.values.flatMap Particle.declarations

theorem ElementDecl.mem_declarations (d : ElementDecl) : d ∈ d.declarations := by
  obtain ⟨name, type, head, blocks⟩ := d
  exact List.mem_cons_self ..

theorem ElementDecl.mem_declarations_of_type {d e : ElementDecl} (h : e ∈ d.type.declarations) :
    e ∈ d.declarations := by
  obtain ⟨name, type, head, blocks⟩ := d
  exact List.mem_cons_of_mem _ h

theorem ComplexType.declarations_eq (t : ComplexType) : t.declarations = t.particle.declarations := by
  obtain ⟨name, derivation, simple, particle, items⟩ := t
  rfl

theorem ResolvedType.declarations_ofDef (d : TypeDef) :
    (ResolvedType.ofDef d).declarations = d.declarations := by
  cases d <;> rfl

theorem declarationsInAll_eq (ps : List Particle) : declarationsInAll ps = ps.flatMap Particle.declarations := by
  induction ps with
  | nil => rfl
  | cons p ps ih => rw [declarationsInAll, ih, List.flatMap_cons]

/-! ### The names of declarations -/

mutual

theorem Particle.declared_eq : ∀ p : Particle, p.declared = p.declarations.map (·.name)
  | .group _ items => declaredInAll_eq items
  | .localElement declaration => declaration.declared_eq
  | .groupRef _ | .elementRef _ | .any | .empty | .unsupported _ => rfl

theorem declaredInAll_eq : ∀ ps : List Particle, declaredInAll ps = (declarationsInAll ps).map (·.name)
  | [] => rfl
  | p :: ps => by
    rw [declaredInAll, declarationsInAll, List.map_append, p.declared_eq, declaredInAll_eq ps]

theorem ElementDecl.declared_eq : ∀ d : ElementDecl, d.declared = d.declarations.map (·.name)
  | ⟨name, type, head, blocks⟩ => by
    rw [ElementDecl.declared, ElementDecl.declarations, List.map_cons, type.declared_eq]

theorem TypeRef.declared_eq : ∀ r : TypeRef, r.declared = r.declarations.map (·.name)
  | .inline definition => definition.declared_eq
  | .named _ | .any => rfl

theorem TypeDef.declared_eq : ∀ d : TypeDef, d.declared = d.declarations.map (·.name)
  | .complex type => type.declared_eq
  | .simple _ => rfl

theorem ComplexType.declared_eq : ∀ t : ComplexType, t.declared = t.declarations.map (·.name)
  | ⟨_, _, _, particle, _⟩ => particle.declared_eq

end

variable {s : Schema}

theorem covers_map_iff {ds : List ElementDecl} :
    s.Covers (ds.map (·.name)) ↔ ∀ d ∈ ds, d.name ∈ s.scope := List.forall_mem_map

theorem scope_eq (s : Schema) : s.scope = s.declarations.map (·.name) := by
  rw [scope, declarations, funext ElementDecl.declared_eq, funext TypeDef.declared_eq,
    funext Particle.declared_eq]
  simp only [List.map_append, List.map_flatMap]

/-- The names of all declarations are in scope. -/
theorem name_mem_scope {d : ElementDecl} (h : d ∈ s.declarations) : d.name ∈ s.scope := by
  rw [scope_eq]
  exact List.mem_map_of_mem h

/-! ## What looking up gives -/

section Declarations

variable {P : ElementDecl → Prop} (hs : ∀ d ∈ s.declarations, P d)

include hs

theorem forall_of_mem_elements {d : ElementDecl} (h : d ∈ s.elements.values) : ∀ e ∈ d.declarations, P e :=
  fun e he => hs e (List.mem_append_left _ (List.mem_append_left _ (List.mem_flatMap.2 ⟨d, h, he⟩)))

theorem forall_of_types_get? {n : Name} {d : TypeDef} (h : s.types.get? n = some d) :
    ∀ e ∈ d.declarations, P e :=
  fun e he => hs e (List.mem_append_left _ (List.mem_append_right _
    (List.mem_flatMap.2 ⟨d, Keyed.mem_values_of_get? h, he⟩)))

theorem forall_of_groups_get? {n : Name} {p : Particle} (h : s.groups.get? n = some p) :
    ∀ e ∈ p.declarations, P e :=
  fun e he => hs e (List.mem_append_right _ (List.mem_flatMap.2 ⟨p, Keyed.mem_values_of_get? h, he⟩))

theorem forall_of_globalElement {n : Name} {d : ElementDecl} (h : s.globalElement n = .ok d) :
    ∀ e ∈ d.declarations, P e :=
  forall_of_mem_elements hs (mem_elements_of_globalElement h)

theorem forall_of_mem_substitutionMembers {head d : ElementDecl} (h : d ∈ s.substitutionMembers head) :
    ∀ e ∈ d.declarations, P e := by
  unfold substitutionMembers at h
  split at h
  · cases h
  · exact forall_of_mem_elements hs (List.mem_filter.1 h).1

theorem forall_of_resolve {r : TypeRef} {t : ResolvedType} (hr : ∀ e ∈ r.declarations, P e)
    (h : s.resolve r = .ok t) : ∀ e ∈ t.declarations, P e := by
  cases r with
  | named n =>
    simp only [resolve, typeNamed] at h
    split at h
    · cases h
      intro e he
      split at he <;> cases he
    · obtain ⟨d, hd, h⟩ := Result.bind_eq_ok.1 h
      cases h
      rw [ResolvedType.declarations_ofDef]
      exact forall_of_types_get? hs (find_eq_ok_iff.1 hd)
  | inline d =>
    cases h
    rw [ResolvedType.declarations_ofDef]
    exact hr
  | any => cases h; intro e he; cases he

theorem forall_of_inheritedType {seen : List Name} {head : Option Name} {t : ResolvedType}
    (h : s.inheritedType seen head = .ok t) : ∀ e ∈ t.declarations, P e := by
  fun_induction inheritedType s seen head with
  | case1 => cases h; intro e he; cases he
  | case2 => cases h; intro e he; cases he
  | case3 => cases h
  | case4 _ _ _ _ _ _ ih => exact ih h
  | case5 _ _ _ d hd =>
    have helement := forall_of_mem_elements hs (Keyed.mem_values_of_get? hd)
    exact forall_of_resolve hs (fun e he => helement e (ElementDecl.mem_declarations_of_type he)) h

theorem forall_of_elementType {d : ElementDecl} {t : ResolvedType} (hd : ∀ e ∈ d.declarations, P e)
    (h : s.elementType d = .ok t) : ∀ e ∈ t.declarations, P e := by
  unfold elementType at h
  split at h
  · exact forall_of_inheritedType hs h
  · exact forall_of_resolve hs (fun e he => hd e (ElementDecl.mem_declarations_of_type he)) h

/-! ## What derivation gives -/

omit hs in
theorem forall_of_sequenceOf {p q : Particle} (hp : ∀ e ∈ p.declarations, P e)
    (hq : ∀ e ∈ q.declarations, P e) : ∀ e ∈ (Particle.sequenceOf p q).declarations, P e := by
  unfold Particle.sequenceOf
  split
  · exact hq
  · exact hp
  · intro e he
    simp only [Particle.declarations, declarationsInAll, List.append_nil, List.mem_append] at he
    exact he.elim (hp e) (hq e)

omit hs in
theorem forall_of_ownContent {t : ComplexType} {inherited c : Content} (ht : ∀ e ∈ t.declarations, P e)
    (hi : ∀ e ∈ inherited.particle.declarations, P e) (h : s.ownContent t inherited = .ok c) :
    ∀ e ∈ c.particle.declarations, P e := by
  obtain ⟨attributes, -, h⟩ := Result.bind_eq_ok.1 h
  cases h
  rw [ComplexType.declarations_eq] at ht
  simp only
  split
  · exact hi
  · exact forall_of_sequenceOf hi ht

theorem forall_of_complexContent {within : List Name} {t : ComplexType} {c : Content}
    (ht : ∀ e ∈ t.declarations, P e) (h : s.complexContent within t = .ok c) :
    ∀ e ∈ c.particle.declarations, P e := by
  have hempty : ∀ e ∈ Content.empty.particle.declarations, P e := fun e he => by cases he
  fun_induction complexContent s within t generalizing c with
  | case1 => exact forall_of_ownContent ht hempty h
  | case2 => exact forall_of_ownContent ht hempty h
  | case3 => cases h
  | case4 => exact forall_of_ownContent ht hempty h
  | case5 => cases h
  | case6 within t method base _ _ baseType hb _ ih =>
    obtain ⟨content, hc, h⟩ := Result.bind_eq_ok.1 h
    have hbase : ∀ e ∈ content.particle.declarations, P e := ih (forall_of_types_get? hs hb) hc
    refine forall_of_ownContent ht ?_ h
    unfold Content.inherited
    simp only
    split
    · exact hbase
    · exact hempty

theorem forall_of_contentType {d : ElementDecl} {c : Content} (hd : ∀ e ∈ d.declarations, P e)
    (h : s.contentType d = .ok (.complex c)) : ∀ e ∈ c.particle.declarations, P e := by
  obtain ⟨t, ht, h⟩ := Result.bind_eq_ok.1 h
  have htype : ∀ e ∈ t.declarations, P e := forall_of_elementType hs hd ht
  unfold ResolvedType.content at h
  split at h
  · cases h
  · cases h
  · cases h
    intro e he
    cases he
  · obtain ⟨content, hc, h⟩ := Result.bind_eq_ok.1 h
    cases h
    exact forall_of_complexContent hs htype hc

end Declarations

/-! ## The scope of what is given -/

theorem covers_of_mem_elements {d : ElementDecl} (h : d ∈ s.elements.values) : s.Covers d.declared := by
  rw [ElementDecl.declared_eq, covers_map_iff]
  exact forall_of_mem_elements (fun _ => name_mem_scope) h

theorem covers_of_groups_get? {n : Name} {p : Particle} (h : s.groups.get? n = some p) :
    s.Covers p.declared := by
  rw [Particle.declared_eq, covers_map_iff]
  exact forall_of_groups_get? (fun _ => name_mem_scope) h

theorem covers_of_globalElement {n : Name} {d : ElementDecl} (h : s.globalElement n = .ok d) :
    s.Covers d.declared :=
  covers_of_mem_elements (mem_elements_of_globalElement h)

theorem covers_of_mem_substitutionMembers {head d : ElementDecl} (h : d ∈ s.substitutionMembers head) :
    s.Covers d.declared := by
  rw [ElementDecl.declared_eq, covers_map_iff]
  exact forall_of_mem_substitutionMembers (fun _ => name_mem_scope) h

theorem covers_of_contentType {d : ElementDecl} {c : Content} (hd : s.Covers d.declared)
    (h : s.contentType d = .ok (.complex c)) : s.Covers c.particle.declared := by
  rw [ElementDecl.declared_eq, covers_map_iff] at hd
  rw [Particle.declared_eq, covers_map_iff]
  exact forall_of_contentType (fun _ => name_mem_scope) hd h

end SchemaHints.Schema
