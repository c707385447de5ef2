/-
The tables of a compiled schema, read off the documents in their order: each table holds, under every
name, the first declaration that some document makes, the names in the order of these declarations. The
attribute table ends with those attributes of the XML namespace that no document declares, if some
document imports that namespace.
-/
import SchemaHints.FileTree
import SchemaHints.Proofs.Loading.Order
import Mathlib.Tactic

namespace SchemaHints.Schema

/-! ## The children of a root -/

theorem exists_of_mapM {α β : Type} {f : α → Result β} {as : List α} {bs : List β} (h : as.mapM f = .ok bs) :
    (∀ a ∈ as, ∃ b ∈ bs, f a = .ok b) ∧ ∀ b ∈ bs, ∃ a ∈ as, f a = .ok b := by
  induction as generalizing bs with
  | nil =>
    cases h
    exact ⟨nofun, nofun⟩
  | cons a as ih =>
    rw [List.mapM_cons] at h
    obtain ⟨b, hb, h⟩ := Result.bind_eq_ok.1 h
    obtain ⟨bs', hbs, h⟩ := Result.bind_eq_ok.1 h
    cases h
    obtain ⟨hleft, hright⟩ := ih hbs
    constructor
    · intro a' ha
      rcases List.mem_cons.1 ha with rfl | ha
      · exact ⟨b, List.mem_cons_self .., hb⟩
      · obtain ⟨b', hb', hf⟩ := hleft a' ha
        exact ⟨b', List.mem_cons_of_mem _ hb', hf⟩
    · intro b' hb'
      rcases List.mem_cons.1 hb' with rfl | hb'
      · exact ⟨a, List.mem_cons_self .., hb⟩
      · obtain ⟨a', ha, hf⟩ := hright b' hb'
        exact ⟨a', List.mem_cons_of_mem _ ha, hf⟩

/-- What a child of a root contributes, by what it is: a component under its name, a reference, or
nothing that is kept. -/
def Contributes (setting : Setting) (e : Xml.Element) (item : Item) : Word → Prop
  | .element => ∃ declaration, item = .element declaration ∧ setting.globalName e = .ok declaration.name
  | .complexType | .simpleType =>
    ∃ name definition, item = .type name definition ∧ setting.globalName e = .ok name
  | .group => ∃ name particle, item = .group name particle ∧ setting.globalName e = .ok name
  | .attributeGroup => ∃ name items, item = .attributes name items ∧ setting.globalName e = .ok name
  | .attributeUse =>
    ∃ declaration, item = .globalAttribute declaration ∧ setting.globalName e = .ok declaration.name
  | .includes => ∃ location, item = .reference ⟨.includes, some location, none⟩
  | .redefines => ∃ location, item = .reference ⟨.redefines, some location, none⟩
  | .imports => ∃ location, item = .reference ⟨.imports, location, e.attribute? "namespace"⟩
  | _ => item = .nothing ∨ ∃ tag, item = .skipped tag

theorem contributes_of_readItem {setting : Setting} {e : Xml.Element} {item : Item}
    (h : readItem setting e = .ok item) : Contributes setting e item (Word.of e.name.localName) := by
  unfold readItem at h
  generalize Word.of e.name.localName = w at h ⊢
  cases w with
  | element =>
    obtain ⟨declaration, hd, h⟩ := Result.bind_eq_ok.1 h
    cases h
    obtain ⟨name, hname, hd⟩ := Result.bind_eq_ok.1 hd
    obtain ⟨_, -, hd⟩ := Result.bind_eq_ok.1 hd
    obtain ⟨_, -, hd⟩ := Result.bind_eq_ok.1 hd
    cases hd
    exact ⟨_, rfl, hname⟩
  | complexType | simpleType | group | attributeGroup =>
    obtain ⟨name, hname, h⟩ := Result.bind_eq_ok.1 h
    obtain ⟨_, -, h⟩ := Result.bind_eq_ok.1 h
    cases h
    exact ⟨_, _, rfl, hname⟩
  | attributeUse =>
    obtain ⟨name, hname, h⟩ := Result.bind_eq_ok.1 h
    obtain ⟨_, -, h⟩ := Result.bind_eq_ok.1 h
    cases h
    exact ⟨_, rfl, hname⟩
  | includes | redefines =>
    obtain ⟨location, -, h⟩ := Result.bind_eq_ok.1 h
    cases h
    exact ⟨location, rfl⟩
  | imports =>
    cases h
    exact ⟨_, rfl⟩
  | note | notationDecl | defaultOpenContent =>
    cases h
    exact .inl rfl
  | _ =>
    cases h
    exact .inr ⟨_, rfl⟩

/-- Whether an element of a schema document is an import of the XML namespace. -/
def IsXmlImport (e : Xml.Element) : Prop :=
  Word.of e.name.localName = .imports ∧ e.attribute? "namespace" = some xmlNamespace

/-- A child of a root contributes a reference that imports the XML namespace exactly when it is such an
import. -/
theorem isXmlImport_iff {setting : Setting} {e : Xml.Element} {item : Item} (h : readItem setting e = .ok item) :
    IsXmlImport e ↔ ∃ r, item = .reference r ∧ r.importsXml = true := by
  have hc := contributes_of_readItem h
  unfold IsXmlImport
  generalize Word.of e.name.localName = w at hc ⊢
  cases w with
  | imports | includes | redefines =>
    obtain ⟨location, rfl⟩ := hc
    simp [Reference.importsXml]
  | element | attributeUse =>
    obtain ⟨_, rfl, -⟩ := hc
    simp
  | complexType | simpleType | group | attributeGroup =>
    obtain ⟨_, _, rfl, -⟩ := hc
    simp
  | _ =>
    rcases hc with rfl | ⟨tag, rfl⟩ <;> simp

namespace Source

variable {fs : FileSystem} {limits : Limits} {src : Source}

/-- The items of a document are what the children of its root contribute, all in one setting. -/
theorem IsRead.exists_setting (h : src.IsRead fs limits) :
    ∃ setting, Setting.of src.root src.location src.role = .ok setting ∧ src.document.target = setting.target ∧
      (∀ e ∈ src.root.children, ∃ item ∈ src.document.items, readItem setting e = .ok item) ∧
      ∀ item ∈ src.document.items, ∃ e ∈ src.root.children, readItem setting e = .ok item := by
  obtain ⟨setting, hs, hd⟩ := Result.bind_eq_ok.1 h.document
  obtain ⟨items, hitems, hd⟩ := Result.bind_eq_ok.1 hd
  rw [← Except.ok.inj hd]
  exact ⟨setting, hs, rfl, exists_of_mapM hitems⟩

theorem IsRead.importsXml_iff (h : src.IsRead fs limits) :
    src.importsXml = true ↔ ∃ e ∈ src.root.children, IsXmlImport e := by
  obtain ⟨setting, -, -, hchild, hitem⟩ := h.exists_setting
  rw [importsXml, List.any_eq_true]
  constructor
  · rintro ⟨r, hr, himports⟩
    obtain ⟨item, hm, hitem'⟩ := List.mem_filterMap.1 hr
    split at hitem'
    · cases hitem'
      obtain ⟨e, he, hread⟩ := hitem _ hm
      exact ⟨e, he, (isXmlImport_iff hread).2 ⟨r, rfl, himports⟩⟩
    · cases hitem'
  · rintro ⟨e, he, himport⟩
    obtain ⟨item, hm, hread⟩ := hchild e he
    obtain ⟨r, rfl, himports⟩ := (isXmlImport_iff hread).1 himport
    exact ⟨r, List.mem_filterMap.2 ⟨_, hm, rfl⟩, himports⟩

end Source

/-! ## Merged documents -/

/-- What a schema holds of some documents: their files, and in each table the first declaration that they
make of a name. The attributes may be more than those that the documents declare. -/
structure Merged (sources : List Source) (attributes : List AttributeDecl) (s : Schema) : Prop where
  files : s.sources = sources.map Source.path
  elements : s.elements.HoldsFirst (sources.flatMap fun src => src.document.elements.map fun e => (e.name, e))
  types : s.types.HoldsFirst (sources.flatMap (·.document.types))
  groups : s.groups.HoldsFirst (sources.flatMap (·.document.groups))
  attributeGroups : s.attributeGroups.HoldsFirst (sources.flatMap (·.document.attributeGroups))
  attributes : s.attributes.HoldsFirst (attributes.map fun a => (a.name, a))

namespace Merged

variable {s : Schema} {sources : List Source} {attributes : List AttributeDecl}

theorem empty : Merged [] [] Schema.empty where
  files := rfl
  elements := .empty
  types := .empty
  groups := .empty
  attributeGroups := .empty
  attributes := .empty

theorem addSource (h : Merged sources attributes s) (src : Source) :
    Merged (sources ++ [src]) (attributes ++ src.document.attributes) (s.addSource src) where
  files := by
    rw [List.map_append, ← h.files]
    rfl
  elements := by
    rw [List.flatMap_append, List.flatMap_singleton]
    exact h.elements.insertAllNew _
  types := by
    rw [List.flatMap_append, List.flatMap_singleton]
    exact h.types.insertAllNew _
  groups := by
    rw [List.flatMap_append, List.flatMap_singleton]
    exact h.groups.insertAllNew _
  attributeGroups := by
    rw [List.flatMap_append, List.flatMap_singleton]
    exact h.attributeGroups.insertAllNew _
  attributes := by
    rw [List.map_append]
    exact h.attributes.insertAllNew _

theorem addAttributes (h : Merged sources attributes s) (more : List AttributeDecl) :
    Merged sources (attributes ++ more) (s.addAttributes more) :=
  { h with
    attributes := by
      rw [List.map_append]
      exact h.attributes.insertAllNew _ }

/-- An attribute is in the table exactly when there is an attribute of its name. -/
theorem contains_attributes (h : Merged sources attributes s) (n : Name) :
    s.attributes.contains n = decide (n ∈ attributes.map (·.name)) := by
  unfold Keyed.contains
  rw [decide_eq_decide, h.attributes.mem_keys, List.map_map]
  rfl

end Merged

/-- The global attributes that documents declare. -/
def declaredAttributes (sources : List Source) : List AttributeDecl := sources.flatMap (·.document.attributes)

/-- The attributes of the XML namespace that documents do not declare. -/
def undeclaredXmlAttributes (sources : List Source) : List AttributeDecl :=
  xmlAttributes.filter fun a => a.name ∉ (declaredAttributes sources).map (·.name)

theorem merged_ofSources (sources : List Source) :
    Merged sources (declaredAttributes sources) (ofSources sources) := by
  induction sources using List.reverseRecOn with
  | nil => exact .empty
  | append_singleton sources src ih =>
    rw [ofSources_concat, declaredAttributes, List.flatMap_append, List.flatMap_singleton]
    exact ih.addSource src

theorem importsXml_ofSources (sources : List Source) :
    (ofSources sources).importsXml = sources.any Source.importsXml := by
  induction sources using List.reverseRecOn with
  | nil => rfl
  | append_singleton sources src ih =>
    rw [ofSources_concat, List.any_append, List.any_cons, List.any_nil, Bool.or_false, ← ih]
    rfl

theorem suppliedAttributes_ofSources (sources : List Source) :
    (ofSources sources).suppliedAttributes =
      if sources.any Source.importsXml then undeclaredXmlAttributes sources else [] := by
  rw [suppliedAttributes, importsXml_ofSources, undeclaredXmlAttributes]
  refine ite_congr rfl (fun _ => List.filter_congr fun a _ => ?_) fun _ => rfl
  rw [(merged_ofSources sources).contains_attributes, decide_not]

/-- The schema that is compiled from a file has the attributes that its documents declare, and those of the
XML namespace that they do not declare when one of them imports it. -/
theorem exists_merged {fs : FileSystem} {options : Options} {path : Path} {s : Schema}
    (h : (compileFile fs.files options path).result = .ok s) :
    ∃ main later, LoadOrder fs options.limits path main later ∧
      Merged (main :: later) (declaredAttributes (main :: later) ++
        if (main :: later).any Source.importsXml then undeclaredXmlAttributes (main :: later) else []) s := by
  obtain ⟨main, later, horder, rfl⟩ := exists_loadOrder h
  refine ⟨main, later, horder, ?_⟩
  rw [suppliedAttributes_ofSources]
  exact (merged_ofSources _).addAttributes _

/-- A schema that is compiled from a file has read documents in their order, no file twice and none left
out that a reference of a document leads to and that can be read. Its tables hold the first declarations of
these documents; the attributes of the XML namespace that no document declares are among them exactly when
one of the documents imports that namespace. -/
theorem compileFile_sources {fs : FileSystem} {options : Options} {path : Path} {s : Schema}
    (h : (compileFile fs.files options path).result = .ok s) :
    ∃ main later, LoadOrder fs options.limits path main later ∧ s.sources.Nodup ∧
      (∀ src ∈ main :: later, ∀ p ∈ src.references, ∀ file, fs.readable? p.path = some file → file ∈ s.sources) ∧
      ((∃ src ∈ main :: later, ∃ e ∈ src.root.children, IsXmlImport e) →
        Merged (main :: later) (declaredAttributes (main :: later) ++ undeclaredXmlAttributes (main :: later)) s) ∧
      ((¬∃ src ∈ main :: later, ∃ e ∈ src.root.children, IsXmlImport e) →
        Merged (main :: later) (declaredAttributes (main :: later)) s) := by
  obtain ⟨main, later, horder, hmerged⟩ := exists_merged h
  have himports : (main :: later).any Source.importsXml = true ↔
      ∃ src ∈ main :: later, ∃ e ∈ src.root.children, IsXmlImport e := by
    rw [List.any_eq_true]
    exact exists_congr fun src => and_congr_right fun hsrc => (horder.read src hsrc).importsXml_iff
  refine ⟨main, later, horder, ?_, ?_, ?_, ?_⟩
  · rw [hmerged.files]
    exact horder.nodup
  · intro src hsrc p hp file hfile
    obtain ⟨src', hsrc', rfl⟩ := horder.exists_source hsrc hp hfile
    rw [hmerged.files]
    exact List.mem_map_of_mem hsrc'
  · intro hi
    rw [if_pos (himports.2 hi)] at hmerged
    exact hmerged
  · intro hi
    rw [if_neg (mt himports.1 hi), List.append_nil] at hmerged
    exact hmerged

/-- Two documents that include each other, one of them under two spellings. -/
def includeCycle : FileTree := .ofFiles
  [("main.xsd", documentBytes ""
      ["<xs:include schemaLocation='part.xsd'/>", "<xs:include schemaLocation='./part.xsd'/>",
        "<xs:import namespace='http://www.w3.org/XML/1998/namespace'/>", "<xs:element name='main'/>"]),
    ("part.xsd", documentBytes ""
      ["<xs:include schemaLocation='main.xsd'/>", "<xs:include schemaLocation='none.xsd'/>",
        "<xs:element name='part'/>", "<xs:element name='main'/>"])]

theorem compileFile_sources_cycle : ∃ s main later,
    (compileFile includeCycle.toFiles .standard (.ofString "main.xsd")).result = .ok s ∧
      LoadOrder includeCycle.fileSystem .standard (.ofString "main.xsd") main later ∧
      s.sources = [.ofString "/main.xsd", .ofString "/part.xsd"] ∧
      s.elements.keys = [.plain "main", .plain "part"] ∧ s.attributes.keys = xmlAttributes.map (·.name) := by
  have hcomputed : (compiledWithin includeCycle.fileSystem.files .standard (.ofString "main.xsd") 4).map
      (fun s => (s.sources, s.elements.keys, s.attributes.keys)) =
      some ([.ofString "/main.xsd", .ofString "/part.xsd"], [.plain "main", .plain "part"],
        xmlAttributes.map (·.name)) := by
    decide +kernel
  obtain ⟨s, hcompiled, htables⟩ := exists_compileFile hcomputed
  simp only [Prod.mk.injEq] at htables
  obtain ⟨main, later, horder, -⟩ := compileFile_sources hcompiled
  exact ⟨s, main, later, hcompiled, horder, htables⟩

end SchemaHints.Schema
