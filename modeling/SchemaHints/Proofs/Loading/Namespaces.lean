/-
The namespaces of documents. A document is read once, under the role of the first reference that leads to
it, and what a reference says of its namespace counts for that reading alone: an included document without
a namespace of its own adopts the one of the document that includes it first, and an included document of
another namespace is refused when an include leads to it first. Later references find the document as it is.
-/
import SchemaHints.FileTree
import SchemaHints.Proofs.Loading.Tables
import Mathlib.Tactic

namespace SchemaHints.Schema

/-! ## Effective target namespaces -/

/-- The namespace that a role gives to a document without one of its own. -/
def Role.space : Role → String
  | .included target => target
  | .primary | .imported => ""

/-- A document is in the namespace that it declares, or in the one that its role gives it; an included one
may declare no other than that. -/
theorem Setting.target_of_role {root : Xml.Element} {location : String} {role : Role} {setting : Setting}
    (h : Setting.of root location role = .ok setting) :
    setting.target = (if declaredTarget root = "" then role.space else declaredTarget root) ∧
      ∀ target, role = .included target → declaredTarget root = "" ∨ declaredTarget root = target := by
  simp only [Setting.of] at h
  split at h
  · cases h
  cases role with
  | primary | imported =>
    cases h
    refine ⟨?_, nofun⟩
    split
    · assumption
    · rfl
  | included target =>
    simp only at h
    split at h
    · rename_i hd
      cases h
      exact ⟨(if_pos hd).symm, fun _ _ => .inl hd⟩
    · rename_i hd
      split at h
      · rename_i hsame
        cases h
        exact ⟨(if_neg hd).symm, fun target' ht => .inr (hsame.trans (Role.included.inj ht))⟩
      · cases h

namespace Source

variable {fs : FileSystem} {limits : Limits} {src : Source}

/-- A document without a namespace of its own is in the one that its role gives it. -/
theorem IsRead.target_of_undeclared (h : src.IsRead fs limits) (hd : declaredTarget src.root = "") :
    src.document.target = src.role.space := by
  obtain ⟨setting, hs, htarget, -⟩ := h.exists_setting
  rw [htarget, (Setting.target_of_role hs).1, if_pos hd]

/-- An included document declares no namespace, or the one of the document that includes it. -/
theorem IsRead.declaredTarget_of_included (h : src.IsRead fs limits) {target : String}
    (hrole : src.role = .included target) : declaredTarget src.root = "" ∨ declaredTarget src.root = target := by
  obtain ⟨setting, hs, -⟩ := h.exists_setting
  exact (Setting.target_of_role hs).2 target hrole

end Source

/-! ## Global components by their names -/

/-- The name that a child of a root declares, without its namespace. -/
def declaredName? (e : Xml.Element) : Option String := (e.attribute? "name").map Text.trim

theorem Setting.globalName_eq_ok {setting : Setting} {e : Xml.Element} {n : Name}
    (h : setting.globalName e = .ok n) :
    ∃ localName, declaredName? e = some localName ∧ n = ⟨setting.target, localName⟩ := by
  obtain ⟨localName, hl, h⟩ := Result.bind_eq_ok.1 h
  cases h
  refine ⟨localName, ?_, rfl⟩
  unfold Setting.required at hl
  unfold declaredName?
  split at hl
  · rename_i value hv
    rw [hv]
    exact congrArg some (Except.ok.inj hl)
  · cases hl

/-- All global elements, types and groups that a root declares are found in a schema under a namespace. -/
structure FoundUnder (s : Schema) (root : Xml.Element) (space : String) : Prop where
  elements : ∀ e ∈ root.children, Word.of e.name.localName = .element →
    ∃ localName d, declaredName? e = some localName ∧ s.globalElement ⟨space, localName⟩ = .ok d
  types : ∀ e ∈ root.children,
    Word.of e.name.localName = .complexType ∨ Word.of e.name.localName = .simpleType →
    ∃ localName t, declaredName? e = some localName ∧ s.typeNamed ⟨space, localName⟩ = .ok t
  groups : ∀ e ∈ root.children, Word.of e.name.localName = .group →
    ∃ localName p, declaredName? e = some localName ∧ s.namedGroup ⟨space, localName⟩ = .ok p

theorem exists_typeNamed {s : Schema} {n : Name} (h : ∃ d, find .types s.types n = .ok d) :
    ∃ t, s.typeNamed n = .ok t := by
  obtain ⟨d, hd⟩ := h
  unfold typeNamed
  split
  · exact ⟨_, rfl⟩
  · exact ⟨.ofDef d, Result.bind_eq_ok.2 ⟨d, hd, rfl⟩⟩

/-- A name that some document declares is found. -/
theorem exists_find {α : Type} {table : Table} {entries : Keyed Name α} {sources : List Source}
    {declared : Source → List (Name × α)} (h : entries.HoldsFirst (sources.flatMap declared)) {src : Source}
    (hsrc : src ∈ sources) {n : Name} {a : α} (hn : (n, a) ∈ declared src) : ∃ b, find table entries n = .ok b := by
  have hkey : n ∈ entries.keys :=
    h.mem_keys.2 (List.mem_map.2 ⟨(n, a), List.mem_flatMap.2 ⟨src, hsrc, hn⟩, rfl⟩)
  obtain ⟨b, hb⟩ := Keyed.mem_keys_iff.1 hkey
  exact ⟨b, find_eq_ok_iff.2 hb⟩

/-- What a document declares is found under its effective target namespace. -/
theorem Merged.foundUnder {fs : FileSystem} {limits : Limits} {s : Schema} {sources : List Source}
    {attributes : List AttributeDecl} (h : Merged sources attributes s) {src : Source} (hsrc : src ∈ sources)
    (hread : src.IsRead fs limits) : FoundUnder s src.root src.document.target := by
  obtain ⟨setting, -, htarget, hchild, -⟩ := hread.exists_setting
  have hcontributes : ∀ e ∈ src.root.children, ∃ item ∈ src.document.items,
      Contributes setting e item (Word.of e.name.localName) := by
    intro e he
    obtain ⟨item, hm, hitem⟩ := hchild e he
    exact ⟨item, hm, contributes_of_readItem hitem⟩
  rw [htarget]
  constructor
  case elements =>
    intro e he hw
    obtain ⟨item, hm, hc⟩ := hcontributes e he
    rw [hw] at hc
    obtain ⟨declaration, rfl, hname⟩ := hc
    obtain ⟨localName, hl, hn⟩ := Setting.globalName_eq_ok hname
    have hmem : declaration ∈ src.document.elements := List.mem_filterMap.2 ⟨_, hm, rfl⟩
    have hfound : ∃ d, s.globalElement declaration.name = .ok d :=
      exists_find h.elements hsrc (List.mem_map_of_mem hmem)
    rw [hn] at hfound
    obtain ⟨d, hd⟩ := hfound
    exact ⟨localName, d, hl, hd⟩
  case types =>
    intro e he hw
    obtain ⟨item, hm, hc⟩ := hcontributes e he
    have hc' : ∃ name definition, item = .type name definition ∧ setting.globalName e = .ok name := by
      rcases hw with hw | hw <;> rw [hw] at hc <;> exact hc
    obtain ⟨name, definition, rfl, hname⟩ := hc'
    obtain ⟨localName, hl, rfl⟩ := Setting.globalName_eq_ok hname
    obtain ⟨t, ht⟩ := exists_typeNamed (exists_find h.types hsrc (List.mem_filterMap.2 ⟨_, hm, rfl⟩))
    exact ⟨localName, t, hl, ht⟩
  case groups =>
    intro e he hw
    obtain ⟨item, hm, hc⟩ := hcontributes e he
    rw [hw] at hc
    obtain ⟨name, particle, rfl, hname⟩ := hc
    obtain ⟨localName, hl, rfl⟩ := Setting.globalName_eq_ok hname
    obtain ⟨p, hp⟩ := exists_find h.groups hsrc (List.mem_filterMap.2 ⟨_, hm, rfl⟩)
    exact ⟨localName, p, hl, hp⟩

/-! ## A document and its parts -/

/-- A document in `urn:main` with these references, and a document of parts with these attributes. -/
def mainAndParts (references : List String) (attributes : String) : FileTree := .ofFiles
  [("main.xsd", documentBytes "targetNamespace='urn:main'" references),
    ("parts.xsd", documentBytes attributes ["<xs:element name='part'/>"])]

/-- An include of the parts. -/
def includeParts : String := "<xs:include schemaLocation='parts.xsd'/>"

/-- An import of parts without a namespace. -/
def importParts : String := "<xs:import schemaLocation='parts.xsd'/>"

/-- Whether the document in `urn:main` includes the parts. -/
def includesParts (fs : FileSystem) : Bool :=
  (rootIn? fs .standard (.ofString "/main.xsd")).any fun root =>
    (Document.read root (Path.ofString "main.xsd").text .primary).toOption.any fun d =>
      d.target = "urn:main" && d.references.any fun r => r.kind = .includes &&
        (r.pending? (Path.ofString "/main.xsd").parent? d.target).any fun p =>
          fs.readable? p.path = some (.ofString "/parts.xsd")

/-- What has been read, when the document in `urn:main` includes the parts and both are loaded. -/
theorem exists_include {fs : FileSystem} {s : Schema}
    (h : (compileFile fs.files .standard (.ofString "main.xsd")).result = .ok s)
    (hs : s.sources = [.ofString "/main.xsd", .ofString "/parts.xsd"]) (hi : includesParts fs = true) :
    ∃ main parts, LoadOrder fs .standard (.ofString "main.xsd") main [parts] ∧
      parts.path = .ofString "/parts.xsd" ∧ main.document.target = "urn:main" ∧
      ∃ r ∈ main.document.references, r.kind = .includes ∧
        ∃ p, r.pending? main.path.parent? main.document.target = some p ∧ fs.readable? p.path = some parts.path := by
  obtain ⟨main, later, horder, hmerged⟩ := exists_merged h
  have hfiles := hmerged.files
  rw [hs] at hfiles
  obtain ⟨hmain, hlater⟩ := List.cons.inj hfiles
  obtain ⟨parts, rfl, hparts⟩ := List.map_eq_singleton_iff.1 hlater.symm
  have hread : main.IsRead fs .standard := horder.read main (List.mem_cons_self ..)
  have hroot := hread.rootIn?_eq
  have hdocument := hread.document
  rw [horder.location, horder.role] at hdocument
  rw [← hmain] at hroot
  unfold includesParts at hi
  rw [hroot] at hi
  simp only [Option.any_some, hdocument, Except.toOption, Bool.and_eq_true, decide_eq_true_eq, List.any_eq_true] at hi
  obtain ⟨htarget, r, hr, hkind, hpending⟩ := hi
  obtain ⟨p, hp, hreadable⟩ := (Option.any_eq_true _ _).1 hpending
  refine ⟨main, parts, horder, hparts, htarget, r, hr, hkind, p, ?_, ?_⟩
  · rw [← hmain]
    exact hp
  · rw [hparts]
    exact of_decide_eq_true hreadable

/-! ## Adoption -/

theorem Reference.role_of_pending {r : Reference} {base : Option Path} {target : String} {p : Pending}
    (h : r.pending? base target = some p) (hk : r.kind ≠ .imports) : p.role = .included target := by
  obtain ⟨location, -, h⟩ := Option.bind_eq_some_iff.1 h
  obtain ⟨path, -, h⟩ := Option.bind_eq_some_iff.1 h
  cases h
  unfold Reference.role
  split
  · contradiction
  · rfl
  · rfl

/-- A document that is included, and has no namespace of its own, is in the namespace that the first
reference to it gives it, and so in that of the including document if its role is the one that this
include gives it. -/
theorem compileFile_adopts {fs : FileSystem} {options : Options} {path : Path} {s : Schema}
    (h : (compileFile fs.files options path).result = .ok s) :
    ∃ main later, LoadOrder fs options.limits path main later ∧
      ∀ src ∈ main :: later, ∀ r ∈ src.document.references, r.kind = .includes →
        ∀ p, r.pending? src.path.parent? src.document.target = some p →
        ∀ file, fs.readable? p.path = some file →
          ∃ src' ∈ main :: later, src'.path = file ∧ (declaredTarget src'.root = "" →
            FoundUnder s src'.root src'.role.space ∧
              (src'.role = p.role → FoundUnder s src'.root src.document.target)) := by
  obtain ⟨main, later, horder, hmerged⟩ := exists_merged h
  refine ⟨main, later, horder, fun src hsrc r hr hk p hp file hfile => ?_⟩
  obtain ⟨src', hsrc', hpath⟩ := horder.exists_source hsrc (List.mem_filterMap.2 ⟨r, hr, hp⟩) hfile
  refine ⟨src', hsrc', hpath, fun hundeclared => ?_⟩
  have hread := horder.read src' hsrc'
  have hfound : FoundUnder s src'.root src'.role.space := by
    rw [← hread.target_of_undeclared hundeclared]
    exact hmerged.foundUnder hsrc' hread
  refine ⟨hfound, fun hrole => ?_⟩
  rw [hrole, Reference.role_of_pending hp (by rw [hk]; decide)] at hfound
  exact hfound

/-- Parts without a namespace, which are first included and then imported. -/
def includedParts : FileTree := mainAndParts [includeParts, importParts] ""

theorem compileFile_adopts_included : ∃ s main later,
    (compileFile includedParts.toFiles .standard (.ofString "main.xsd")).result = .ok s ∧
      LoadOrder includedParts.fileSystem .standard (.ofString "main.xsd") main later ∧
      s.elements.keys = [⟨"urn:main", "part"⟩] := by
  have hcomputed : (compiledWithin includedParts.fileSystem.files .standard (.ofString "main.xsd") 2).map
      (fun s => s.elements.keys) = some [⟨"urn:main", "part"⟩] := by
    decide +kernel
  obtain ⟨s, hcompiled, hkeys⟩ := exists_compileFile hcomputed
  obtain ⟨main, later, horder, -⟩ := compileFile_adopts hcompiled
  exact ⟨s, main, later, hcompiled, horder, hkeys⟩

/-- Parts without a namespace, which are first imported and then included. -/
def importedParts : FileTree := mainAndParts [importParts, includeParts] ""

/-- Not every included document without a namespace of its own is in that of the including document: one that
an import leads to before is in none. -/
theorem not_adopts_imported : ¬∀ (fs : FileSystem) (options : Options) (path : Path) (s : Schema),
    (compileFile fs.files options path).result = .ok s →
    ∀ main later, LoadOrder fs options.limits path main later →
      ∀ src ∈ main :: later, ∀ r ∈ src.document.references, r.kind = .includes →
        ∀ p, r.pending? src.path.parent? src.document.target = some p →
        ∀ src' ∈ main :: later, fs.readable? p.path = some src'.path → declaredTarget src'.root = "" →
          FoundUnder s src'.root src.document.target := by
  intro hall
  obtain ⟨fs, hfs⟩ : ∃ fs, fs = importedParts.fileSystem := ⟨_, rfl⟩
  have hcomputed : (compiledWithin fs.files .standard (.ofString "main.xsd") 2).map
      (fun s => (s.sources, s.elements.keys)) =
      some ([.ofString "/main.xsd", .ofString "/parts.xsd"], [.plain "part"]) := by
    rw [hfs]
    decide +kernel
  have hincludes : includesParts fs = true := by
    rw [hfs]
    decide +kernel
  have hroot : (rootIn? fs .standard (.ofString "/parts.xsd")).any (fun root => declaredTarget root = "" &&
      root.children.any fun e => Word.of e.name.localName = .element) = true := by
    rw [hfs]
    decide +kernel
  obtain ⟨s, hcompiled, htables⟩ := exists_compileFile hcomputed
  obtain ⟨hsources, hkeys⟩ := Prod.mk.inj htables
  obtain ⟨main, parts, horder, hparts, htarget, r, hr, hkind, p, hp, hfile⟩ :=
    exists_include hcompiled hsources hincludes
  have hmem : parts ∈ [main, parts] := List.mem_cons_of_mem _ (List.mem_cons_self ..)
  rw [← hparts, (horder.read parts hmem).rootIn?_eq] at hroot
  simp only [Option.any_some, Bool.and_eq_true, decide_eq_true_eq, List.any_eq_true] at hroot
  obtain ⟨hundeclared, e, he, hw⟩ := hroot
  have hfound := hall fs .standard _ s hcompiled main [parts] horder main (List.mem_cons_self ..) r hr hkind p hp
    parts hmem hfile hundeclared
  obtain ⟨localName, d, -, hd⟩ := hfound.elements e he hw
  have hkey := Keyed.mem_keys_of_get? (find_eq_ok_iff.1 hd)
  rw [hkeys, htarget, List.mem_singleton] at hkey
  have hspace : "urn:main" = "" := congrArg Name.space hkey
  exact absurd hspace (by decide)

/-! ## Refusal -/

/-- A file that holds a schema document with this root, and can be read within limits. -/
structure HoldsSchema (fs : FileSystem) (limits : Limits) (file : Path) (root : Xml.Element) : Prop where
  content : ∃ content, fs.read file = .ok content ∧ content.length ≤ limits.size ∧
    Xml.rootOf limits content = .ok (some root)
  tag : root.name.localName = "schema"
  space : isSchemaNamespace root.name.space = true

theorem Setting.of_foreign {root : Xml.Element} {location target : String} (ht : root.name.localName = "schema")
    (hs : isSchemaNamespace root.name.space = true) (hd : declaredTarget root ≠ "")
    (hf : declaredTarget root ≠ target) :
    Setting.of root location (.included target) = failAt location (.foreignInclude (declaredTarget root) target) := by
  have hschema : ¬(root.name.localName ≠ "schema" ∨ (!isSchemaNamespace root.name.space) = true) := by
    simp [ht, hs]
  simp only [Setting.of]
  rw [if_neg hschema, if_neg hd, if_neg hf]

/-- A visit that an include leads to a new document of another namespace fails. -/
theorem Loading.visit_foreign {fs : FileSystem} {limits : Limits} {l : Loading} {p : Pending} {file : Path}
    {root : Xml.Element} {target : String} (hp : p.role = .included target)
    (hc : fs.canonicalize p.path = .ok file) (hnew : file ∉ l.visited)
    (hcount : l.visited.length < limits.documents) (h : HoldsSchema fs limits file root)
    (hd : declaredTarget root ≠ "") (hf : declaredTarget root ≠ target) :
    (visit limits l p (fs.files p.path)).result =
      failAt p.path.text (.foreignInclude (declaredTarget root) target) := by
  obtain ⟨content, hr, hsize, hroot⟩ := h.content
  have hdocuments : limits.checkDocuments (file :: l.visited).length = .ok () := if_neg (by simpa using hcount)
  have hbytes : limits.checkSize content.length = .ok () := if_neg (by omega)
  have hread : Document.read root p.path.text p.role =
      failAt p.path.text (.foreignInclude (declaredTarget root) target) := by
    rw [Document.read, hp, Setting.of_foreign h.tag h.space hd hf]
    rfl
  rw [FileSystem.files_of_ok hc]
  unfold visit
  simp only [if_neg hnew, hr, Traced.result_bind, Traced.result_lift, hdocuments, hbytes, Loading.addFound, hroot,
    Result.reportedAt, Result.ok_bind, rootAt, Loading.add, hread]
  rfl

/-- A compilation comes to a state after some visits. -/
def ComesTo (fs : FileSystem) (options : Options) (path : Path) (l : Loading) : Prop :=
  ∃ start n, (begin options path (fs.files path)).result = .ok start ∧
    Loading.after fs.files options.limits n start = .ok l

/-- A compilation fails where a reference that is an include leads to a new document of another namespace. -/
theorem compileFile_foreign {fs : FileSystem} {options : Options} {path : Path} {l : Loading}
    (hl : ComesTo fs options path l) {p : Pending} {rest : List Pending} (hpending : l.pending = p :: rest)
    {target : String} (hp : p.role = .included target) {file : Path} (hc : fs.canonicalize p.path = .ok file)
    (hnew : file ∉ l.visited) (hcount : l.visited.length < options.limits.documents) {root : Xml.Element}
    (hroot : HoldsSchema fs options.limits file root) (hd : declaredTarget root ≠ "")
    (hf : declaredTarget root ≠ target) :
    (compileFile fs.files options path).result =
      failAt p.path.text (.foreignInclude (declaredTarget root) target) := by
  obtain ⟨start, n, hs, hn⟩ := hl
  have hvisit := Loading.visit_foreign (l := { l with pending := rest }) hp hc hnew hcount hroot hd hf
  rw [result_compileFile_of_after hs hn, Loading.visitAll_cons hpending, Traced.result_bind, hvisit]
  rfl

/-- A document that is included or redefined declares no namespace, or that of the including document, if
its role is the one that this reference gives it. When an include is the first reference that leads to a
document of another namespace, the compilation fails. -/
theorem compileFile_declaredTarget (fs : FileSystem) (options : Options) (path : Path) :
    (∀ s, (compileFile fs.files options path).result = .ok s →
      ∃ main later, LoadOrder fs options.limits path main later ∧
        ∀ src ∈ main :: later, ∀ r ∈ src.document.references, r.kind ≠ .imports →
          ∀ p, r.pending? src.path.parent? src.document.target = some p →
          ∀ src' ∈ main :: later, fs.canonicalize p.path = .ok src'.path → src'.role = p.role →
            declaredTarget src'.root = "" ∨ declaredTarget src'.root = src.document.target) ∧
    ∀ l, ComesTo fs options path l → ∀ p rest target, l.pending = p :: rest → p.role = .included target →
      ∀ file root, fs.canonicalize p.path = .ok file → file ∉ l.visited →
        l.visited.length < options.limits.documents → HoldsSchema fs options.limits file root →
        declaredTarget root ≠ "" → declaredTarget root ≠ target →
          (compileFile fs.files options path).result =
            failAt p.path.text (.foreignInclude (declaredTarget root) target) := by
  constructor
  · intro s h
    obtain ⟨main, later, horder, -⟩ := exists_loadOrder h
    refine ⟨main, later, horder, fun src _ r _ hk p hp src' hsrc' _ hrole => ?_⟩
    rw [Reference.role_of_pending hp hk] at hrole
    exact (horder.read src' hsrc').declaredTarget_of_included hrole
  · intro l hl p rest target hpending hp file root hc hnew hcount hroot hd hf
    exact compileFile_foreign hl hpending hp hc hnew hcount hroot hd hf

/-- Parts in the namespace of the document that includes them. -/
def ownParts : FileTree := mainAndParts [includeParts] "targetNamespace='urn:main'"

/-- Parts in another namespace than that of the document that includes them. -/
def otherParts : FileTree := mainAndParts [includeParts] "targetNamespace='urn:parts'"

theorem compileFile_declaredTarget_included :
    (∃ s main later, (compileFile ownParts.toFiles .standard (.ofString "main.xsd")).result = .ok s ∧
      LoadOrder ownParts.fileSystem .standard (.ofString "main.xsd") main later ∧
      s.elements.keys = [⟨"urn:main", "part"⟩]) ∧
    (compileFile otherParts.toFiles .standard (.ofString "main.xsd")).result =
      failAt (Path.ofString "/parts.xsd").text (.foreignInclude "urn:parts" "urn:main") := by
  constructor
  · have hcomputed : (compiledWithin ownParts.fileSystem.files .standard (.ofString "main.xsd") 1).map
        (fun s => s.elements.keys) = some [⟨"urn:main", "part"⟩] := by
      decide +kernel
    obtain ⟨s, hcompiled, hkeys⟩ := exists_compileFile hcomputed
    obtain ⟨main, later, horder, -⟩ := (compileFile_declaredTarget ownParts.fileSystem .standard _).1 s hcompiled
    exact ⟨s, main, later, hcompiled, horder, hkeys⟩
  · have hbegun : (begin .standard (.ofString "main.xsd")
        (otherParts.toFiles (.ofString "main.xsd"))).result.toOption.map
        (fun l => (l.visited, l.pending.map fun p => (p.path, p.role))) =
        some ([.ofString "/main.xsd"], [(.ofString "/parts.xsd", .included "urn:main")]) := by
      decide +kernel
    have hparts : (otherParts.read (.ofString "/parts.xsd")).toOption.any (fun content =>
        content.length ≤ Limits.standard.size && (Xml.rootOf .standard content).toOption.any fun root =>
          root.any fun root => root.name.localName = "schema" && isSchemaNamespace root.name.space &&
            declaredTarget root = "urn:parts") = true := by
      decide +kernel
    have hfile : otherParts.canonicalize (.ofString "/parts.xsd") = .ok (.ofString "/parts.xsd") := by
      decide +kernel
    obtain ⟨l, hl, hstate⟩ := Option.map_eq_some_iff.1 hbegun
    obtain ⟨hvisited, hpending⟩ := Prod.mk.inj hstate
    obtain ⟨p, hp, hrole⟩ := List.map_eq_singleton_iff.1 hpending
    obtain ⟨hpath, hrole⟩ := Prod.mk.inj hrole
    simp only [Option.any_eq_true, Bool.and_eq_true, decide_eq_true_eq] at hparts
    obtain ⟨content, hcontent, hsize, found, hfound, root, rfl, ⟨htag, hspace⟩, hdeclared⟩ := hparts
    have hroot : HoldsSchema otherParts.fileSystem .standard (.ofString "/parts.xsd") root :=
      ⟨⟨content, Result.toOption_eq_some.1 hcontent, hsize, Result.toOption_eq_some.1 hfound⟩, htag, hspace⟩
    have hfails := (compileFile_declaredTarget otherParts.fileSystem .standard (.ofString "main.xsd")).2 l
      ⟨l, 0, Result.toOption_eq_some.1 hl, rfl⟩ p [] "urn:main" hp hrole _ root (hpath ▸ hfile)
      (by rw [hvisited]; decide +kernel) (by rw [hvisited]; decide) hroot (by rw [hdeclared]; decide)
      (by rw [hdeclared]; decide)
    rw [hpath, hdeclared] at hfails
    exact hfails

/-- Parts in another namespace, which are first imported and then included. -/
def foreignParts : FileTree :=
  mainAndParts ["<xs:import namespace='urn:parts' schemaLocation='parts.xsd'/>", includeParts]
    "targetNamespace='urn:parts'"

/-- Not every included document declares no namespace or that of the including document: one that an import
leads to before may declare another. -/
theorem not_declaredTarget_imported : ¬∀ (fs : FileSystem) (options : Options) (path : Path) (s : Schema),
    (compileFile fs.files options path).result = .ok s →
    ∀ main later, LoadOrder fs options.limits path main later →
      ∀ src ∈ main :: later, ∀ r ∈ src.document.references, r.kind ≠ .imports →
        ∀ p, r.pending? src.path.parent? src.document.target = some p →
        ∀ src' ∈ main :: later, fs.canonicalize p.path = .ok src'.path →
          declaredTarget src'.root = "" ∨ declaredTarget src'.root = src.document.target := by
  intro hall
  obtain ⟨fs, hfs⟩ : ∃ fs, fs = foreignParts.fileSystem := ⟨_, rfl⟩
  have hcomputed : (compiledWithin fs.files .standard (.ofString "main.xsd") 2).map (fun s => s.sources) =
      some [.ofString "/main.xsd", .ofString "/parts.xsd"] := by
    rw [hfs]
    decide +kernel
  have hincludes : includesParts fs = true := by
    rw [hfs]
    decide +kernel
  have hroot : (rootIn? fs .standard (.ofString "/parts.xsd")).any
      (fun root => declaredTarget root = "urn:parts") = true := by
    rw [hfs]
    decide +kernel
  obtain ⟨s, hcompiled, hsources⟩ := exists_compileFile hcomputed
  obtain ⟨main, parts, horder, hparts, htarget, r, hr, hkind, p, hp, hfile⟩ :=
    exists_include hcompiled hsources hincludes
  have hmem : parts ∈ [main, parts] := List.mem_cons_of_mem _ (List.mem_cons_self ..)
  rw [← hparts, (horder.read parts hmem).rootIn?_eq, Option.any_some, decide_eq_true_eq] at hroot
  have hdeclared := hall fs .standard _ s hcompiled main [parts] horder main (List.mem_cons_self ..) r hr
    (by rw [hkind]; decide) p hp parts hmem (FileSystem.readable?_eq_some_iff.1 hfile).1
  rw [hroot, htarget] at hdeclared
  exact absurd hdeclared (by decide)

end SchemaHints.Schema
