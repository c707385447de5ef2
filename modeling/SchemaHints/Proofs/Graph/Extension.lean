/-
Schemas with more in their tables. A name is looked up when a component that uses it is used, and not
to find it is always a fault: nothing goes on differently because a name is missing. So when all that
a build looks up is there, more types, groups and attributes under other names leave it as it is.

The argument is one and the same for each function on the way from the tables to the shape graph: it
is built from look-ups one after another, so whatever it gives is kept when the look-ups keep theirs.
-/
import SchemaHints.Proofs.Fault.Result
import SchemaHints.Proofs.Graph.Discovery
import SchemaHints.Proofs.Walk.Gather

namespace SchemaHints

/-! ## Tables and schemas with more in them -/

namespace Keyed

variable {κ α : Type} [DecidableEq κ]

/-- Every entry of one table is an entry of the other. -/
def Within (t t' : Keyed κ α) : Prop := ∀ k a, t.get? k = some a → t'.get? k = some a

/-- Entries that are added where a key is free take nothing away. -/
theorem within_insertAllNew (t : Keyed κ α) (es : List (κ × α)) : t.Within (t.insertAllNew es) := by
  intro k a h
  rw [get?_insertAllNew, h]
  rfl

end Keyed

namespace Schema

/-- The global elements are the same, and the other tables of `s` lie within those of `s'`, which may
define whatever else under names that `s` does not define. -/
structure ExtendedBy (s s' : Schema) : Prop where
  elements : s'.elements = s.elements
  types : s.types.Within s'.types
  groups : s.groups.Within s'.groups
  attributeGroups : s.attributeGroups.Within s'.attributeGroups
  attributes : s.attributes.Within s'.attributes

/-- The components of a document without elements, added after all others, extend a schema. -/
theorem extendedBy_merge (s : Schema) {d : Document} (hd : d.elements = []) : s.ExtendedBy (s.merge d) where
  elements := by
    show s.elements.insertAllNew (d.elements.map fun e => (e.name, e)) = s.elements
    rw [hd]
    rfl
  types := Keyed.within_insertAllNew _ _
  groups := Keyed.within_insertAllNew _ _
  attributeGroups := Keyed.within_insertAllNew _ _
  attributes := Keyed.within_insertAllNew _ _

theorem find_keptBy {α : Type} (table : Table) {entries entries' : Keyed Name α} (h : entries.Within entries')
    (n : Name) : Result.KeptBy (find table entries n) (find table entries' n) :=
  fun a ha => find_eq_ok_iff.2 (h n a (find_eq_ok_iff.1 ha))

namespace ExtendedBy

variable {s s' : Schema}

/-! ## Elements and their types -/

theorem globalElement (h : s.ExtendedBy s') (n : Name) : s'.globalElement n = s.globalElement n := by
  rw [Schema.globalElement, Schema.globalElement, h.elements]

theorem directMembers (h : s.ExtendedBy s') (n : Name) : s'.directMembers n = s.directMembers n := by
  rw [Schema.directMembers, Schema.directMembers, h.elements]

theorem reach (h : s.ExtendedBy s') (head : Name) (reached pending : List Name) :
    s'.reach head reached pending = s.reach head reached pending := by
  fun_induction Schema.reach s head reached pending with
  | case1 => rw [Schema.reach]
  | case2 reached n rest hnone ih =>
    rw [Schema.reach]
    split
    · exact ih
    · rename_i hnew
      rw [h.directMembers, hnone] at hnew
      cases hnew
  | case3 reached n rest new news hnew ih =>
    rw [Schema.reach]
    split
    · rename_i hnone
      rw [h.directMembers, hnew] at hnone
      cases hnone
    · rename_i hnew'
      rw [h.directMembers, hnew] at hnew'
      cases hnew'
      exact ih

/-- The substitution groups are told by the elements alone. -/
theorem substitutionMembers (h : s.ExtendedBy s') (head : ElementDecl) :
    s'.substitutionMembers head = s.substitutionMembers head := by
  simp only [Schema.substitutionMembers, h.reach, h.elements]

theorem typeNamed (h : s.ExtendedBy s') (n : Name) : Result.KeptBy (s.typeNamed n) (s'.typeNamed n) := by
  unfold Schema.typeNamed
  split
  · exact Result.keptBy_refl _
  · exact (find_keptBy .types h.types n).bind fun _ => Result.keptBy_refl _

theorem resolve (h : s.ExtendedBy s') (r : TypeRef) : Result.KeptBy (s.resolve r) (s'.resolve r) := by
  cases r with
  | named n => exact h.typeNamed n
  | inline definition => exact Result.keptBy_refl _
  | any => exact Result.keptBy_refl _

theorem inheritedType (h : s.ExtendedBy s') (seen : List Name) (head : Option Name) :
    Result.KeptBy (s.inheritedType seen head) (s'.inheritedType seen head) := by
  fun_induction Schema.inheritedType s seen head with
  | case1 =>
    rw [inheritedType_none]
    exact Result.keptBy_refl _
  | case2 seen n hn =>
    rw [inheritedType_seen hn]
    exact Result.keptBy_refl _
  | case3 => exact Result.keptBy_fail _ _
  | case4 seen n hn declaration hd htype ih =>
    rw [inheritedType_of_head hn (h.elements ▸ hd), htype]
    exact ih
  | case5 seen n hn declaration hd htype =>
    rw [inheritedType_of_head hn (h.elements ▸ hd)]
    split
    · exact absurd ‹_› htype
    · exact h.resolve _

theorem elementType (h : s.ExtendedBy s') (e : ElementDecl) :
    Result.KeptBy (s.elementType e) (s'.elementType e) := by
  unfold Schema.elementType
  split
  · exact h.inheritedType _ _
  · exact h.resolve _

theorem enumeration (h : s.ExtendedBy s') (a : AttributeDecl) :
    Result.KeptBy (s.enumeration a) (s'.enumeration a) := by
  unfold Schema.enumeration
  split
  · exact Result.keptBy_refl _
  · exact (h.resolve _).bind fun _ => Result.keptBy_refl _

/-! ## Content -/

theorem edits (h : s.ExtendedBy s') (within : List Name) (items : List AttributeItem) :
    Result.KeptBy (s.edits within items) (s'.edits within items) := by
  fun_induction Schema.edits s within items with
  | case1 =>
    rw [Schema.edits]
    exact Result.keptBy_refl _
  | case2 within declaration prohibited rest ih =>
    rw [Schema.edits]
    exact ih.bind fun _ => Result.keptBy_refl _
  | case3 within n rest ih =>
    rw [Schema.edits, if_pos rfl]
    exact ih.bind fun _ => Result.keptBy_refl _
  | case4 within n prohibited rest hp ih =>
    rw [Schema.edits, if_neg hp]
    exact (find_keptBy .attributes h.attributes n).bind fun _ => ih.bind fun _ => Result.keptBy_refl _
  | case5 within n rest hn ih =>
    rw [Schema.edits, dif_pos hn]
    exact ih
  | case6 => exact Result.keptBy_fail _ _
  | case7 within n rest hn items hi ihItems ih =>
    rw [edits_of_group hn (h.attributeGroups n items hi)]
    exact ihItems.bind fun _ => ih.bind fun _ => Result.keptBy_refl _

theorem ownContent (h : s.ExtendedBy s') (t : ComplexType) (inherited : Content) :
    Result.KeptBy (s.ownContent t inherited) (s'.ownContent t inherited) := by
  have happly : Result.KeptBy (s.applyAttributes t.attributes inherited.attributes)
      (s'.applyAttributes t.attributes inherited.attributes) :=
    (h.edits [] t.attributes).bind fun _ => Result.keptBy_refl _
  exact happly.bind fun _ => Result.keptBy_refl _

theorem complexContent (h : s.ExtendedBy s') (within : List Name) (t : ComplexType) :
    Result.KeptBy (s.complexContent within t) (s'.complexContent within t) := by
  fun_induction Schema.complexContent s within t with
  | case1 within t ht =>
    rw [complexContent_of_plain ht]
    exact h.ownContent t _
  | case2 within t method base ht hb =>
    rw [complexContent_of_builtin ht hb]
    exact h.ownContent t _
  | case3 => exact Result.keptBy_fail _ _
  | case4 within t method base ht hb type htype =>
    rw [complexContent_of_simple ht hb (h.types base _ htype)]
    exact h.ownContent t _
  | case5 => exact Result.keptBy_fail _ _
  | case6 within t method base ht hb baseType htype hn ih =>
    rw [complexContent_of_complex ht hb (h.types base _ htype) hn]
    exact ih.bind fun content => h.ownContent t _

theorem contentType (h : s.ExtendedBy s') (e : ElementDecl) :
    Result.KeptBy (s.contentType e) (s'.contentType e) := by
  refine (h.elementType e).bind fun type => ?_
  cases type with
  | complex t => exact (h.complexContent _ t).bind fun _ => Result.keptBy_refl _
  | _ => exact Result.keptBy_refl _

/-! ## Shapes -/

theorem leafDeclarations (h : s.ExtendedBy s') (p : Particle) : s'.leafDeclarations p = s.leafDeclarations p := by
  cases p with
  | elementRef n => simp only [Schema.leafDeclarations, h.globalElement, h.substitutionMembers]
  | _ => rfl

theorem gather (h : s.ExtendedBy s') (entered : List Name) (ps : List Particle) :
    Result.KeptBy (s.gather entered ps) (s'.gather entered ps) := by
  fun_induction Schema.gather s entered ps with
  | case1 =>
    rw [gather_nil]
    exact Result.keptBy_refl _
  | case2 entered compositor items rest ih =>
    rw [gather_group]
    exact ih
  | case3 entered n rest hn ih =>
    rw [gather_closed hn]
    exact ih
  | case4 => exact Result.keptBy_fail _ _
  | case5 entered n rest hn p hp ih =>
    rw [gather_groupRef hn (h.groups n p hp)]
    exact ih
  | case6 entered p rest hg hr ih =>
    rw [gather_leaf (isLeaf_of_not_group hg hr), joined, joined, h.leafDeclarations]
    exact (Result.keptBy_refl _).bind fun _ => ih.bind fun _ => Result.keptBy_refl _

theorem walk (h : s.ExtendedBy s') (p : Particle) : Result.KeptBy (s.walk p).result (s'.walk p).result := by
  rw [result_walk, result_walk]
  exact h.gather [] [p]

theorem extractAttributes (h : s.ExtendedBy s') (as : List AttributeDecl) :
    Result.KeptBy (s.extractAttributes as).result (s'.extractAttributes as).result := by
  induction as with
  | nil => exact Result.keptBy_refl _
  | cons a rest ih =>
    have hattribute : Result.KeptBy (s.extractAttribute a) (s'.extractAttribute a) :=
      (h.enumeration a).bind fun _ => Result.keptBy_refl _
    simp only [Schema.extractAttributes, Traced.result_bind, Traced.result_lift, Traced.result_line,
      Traced.result_pure]
    exact hattribute.bind fun _ => (Result.keptBy_refl _).bind fun _ => ih.bind fun _ => Result.keptBy_refl _

theorem extract (h : s.ExtendedBy s') (e : ElementDecl) (isTopLevel : Bool) :
    Result.KeptBy (s.extract e isTopLevel).result (s'.extract e isTopLevel).result := by
  rw [result_extract, result_extract]
  refine (h.contentType e).bind fun type => ?_
  cases type with
  | simple => exact Result.keptBy_refl _
  | complex content =>
    exact (h.extractAttributes _).bind fun _ => (h.walk _).bind fun _ => Result.keptBy_refl _

/-- The steps of a build are steps of a build of any schema with more in its tables. -/
theorem builds (h : s.ExtendedBy s') {graph final : ShapeGraph} {pending : List ElementDecl}
    (hb : s.Builds graph pending final) : s'.Builds graph pending final := by
  induction hb with
  | done => exact .done
  | skip hd _ ih => exact .skip hd ih
  | shape hd he _ ih =>
    have hextract := h.extract _ _ _ he
    rw [← h.elements] at hextract
    exact .shape hd hextract ih

end ExtendedBy

/-! ## What a build keeps -/

/-- A schema that can be built is built to the same shape graph when its tables of types, groups, attribute
groups and attributes hold more besides, as when the components of a document without elements are added
that could not be read before. -/
theorem build_extended {s : Schema} {graph : ShapeGraph} (hb : s.build.result = .ok graph) :
    (∀ s', s.ExtendedBy s' → s'.build.result = .ok graph) ∧
      ∀ d : Document, d.elements = [] → (s.merge d).build.result = .ok graph := by
  have hkept : ∀ s', s.ExtendedBy s' → s'.build.result = .ok graph := by
    intro s' h
    rw [result_build, h.elements]
    exact h.builds (result_build.1 hb)
  exact ⟨hkept, fun d hd => hkept _ (extendedBy_merge s hd)⟩

/-! ## A report and its supplement -/

/-- An element whose type is made of a named group and an attribute group. -/
def report : Schema :=
  { Schema.empty.addElements [.simple (.plain "report") (.named (.plain "content"))] with
    types := ⟨[(.plain "content", .complex
      ⟨some (.plain "content"), none, false, .groupRef (.plain "parts"), [.groupRef (.plain "common")]⟩)], by simp⟩
    groups := ⟨[(.plain "parts", .group .sequence [.localElement (.simple (.plain "part") .any)])], by simp⟩
    attributeGroups := ⟨[(.plain "common", [.declared ⟨.plain "id", none⟩ false])], by simp⟩ }

/-- A document that declares a type and a group which `report` lacks, and a type of a name that it has. -/
def supplement : Document :=
  ⟨"", [.type (.plain "note") (.simple ⟨some (.plain "note"), .list⟩),
    .type (.plain "content") (.simple ⟨some (.plain "content"), .list⟩),
    .group (.plain "notes") (.groupRef (.plain "parts"))]⟩

/-- The shape graph of `report`. -/
def reportGraph : ShapeGraph :=
  .ofList [(.plain "report", shapeOf "report" true ["id"] ["part"]), (.plain "part", shapeOf "part" false [] [])]

theorem extract_report :
    (report.extract (.simple (.plain "report") (.named (.plain "content"))) true).result =
      .ok (shapeOf "report" true ["id"] ["part"], [.simple (.plain "part") .any]) := by
  have hedits : report.edits [] [.groupRef (.plain "common")] = .ok [.set ⟨.plain "id", none⟩] := by
    rw [edits_of_group (by simp) rfl]
    simp only [edits]
    rfl
  have hcontent : report.contentType (.simple (.plain "report") (.named (.plain "content"))) =
      .ok (.complex ⟨.ofList [(.plain "id", ⟨.plain "id", none⟩)], .groupRef (.plain "parts")⟩) := by
    have htype : report.elementType (.simple (.plain "report") (.named (.plain "content"))) =
        .ok (.complex ⟨some (.plain "content"), none, false, .groupRef (.plain "parts"),
          [.groupRef (.plain "common")]⟩) := rfl
    rw [contentType, htype, Result.ok_bind, ResolvedType.content, complexContent_of_plain rfl, ownContent,
      applyAttributes, hedits]
    rfl
  have hwalk : (report.walk (.groupRef (.plain "parts"))).result = .ok [.simple (.plain "part") .any] := by
    rw [result_walk, gather_groupRef (by simp) rfl, gather_group, List.singleton_append,
      gather_leaf (p := .localElement _) trivial, gather_nil]
    rfl
  rw [result_extract, extractBy, hcontent]
  simp only [Result.ok_bind, hwalk]
  rfl

theorem build_report : report.build.result = .ok reportGraph := by
  have hpart : (report.extract (.simple (.plain "part") .any) false).result =
      .ok (shapeOf "part" false [] [], []) := by
    cbv
  refine result_build.2 ?_
  refine .shape (by decide) extract_report ?_
  exact .shape (by decide) hpart .done

theorem build_extended_report : report.build.result = .ok reportGraph ∧
    report.ExtendedBy (report.merge supplement) ∧
    (report.merge supplement).types.keys = [.plain "content", .plain "note"] ∧
    (report.merge supplement).build.result = .ok reportGraph := by
  have hextended := extendedBy_merge report (d := supplement) rfl
  exact ⟨build_report, hextended, by decide, (build_extended build_report).1 _ hextended⟩

end Schema

end SchemaHints
