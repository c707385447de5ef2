/-
The number of documents. What the limit on documents bounds is the number of paths that a compilation meets:
that of the primary document, which is not compared with anything, and every other that exists and that a
reference leads to for the first time. A path is counted when it is met, before it is read. So the limit
counts what exists behind the references, and of these the documents are only what can be read: a directory
counts as well.

The paths that are met do not depend on the order in which documents are read, nor on their roles. They are
told by the roots of the documents alone, by following references from the primary document.
-/
import SchemaHints.Proofs.Fault.Loading
import SchemaHints.Proofs.Loading.Tables

namespace SchemaHints.Schema

/-! ## Where references lead -/

/-- Where another document is, according to a child of a root. -/
def locationOf (e : Xml.Element) : Option String :=
  match Word.of e.name.localName with
  | .includes | .imports | .redefines => (e.attribute? "schemaLocation").map Text.trim
  | _ => none

/-- What the references of the document in a file lead to, whether or not it can be read. -/
def leadsTo (fs : FileSystem) (limits : Limits) (file : Path) : List Path :=
  match rootIn? fs limits file with
  | none => []
  | some root => (root.children.filterMap locationOf).filterMap fun location => do
    let path ← Location.resolve? location file.parent?
    (fs.canonicalize path).toOption

theorem mem_leadsTo_iff {fs : FileSystem} {limits : Limits} {file target : Path} :
    target ∈ leadsTo fs limits file ↔ ∃ root, rootIn? fs limits file = some root ∧
      ∃ e ∈ root.children, ∃ location path, locationOf e = some location ∧
        Location.resolve? location file.parent? = some path ∧ fs.canonicalize path = .ok target := by
  unfold leadsTo
  constructor
  · intro h
    split at h
    · cases h
    · rename_i root hroot
      obtain ⟨location, hlocation, h⟩ := List.mem_filterMap.1 h
      obtain ⟨e, he, hlocation⟩ := List.mem_filterMap.1 hlocation
      obtain ⟨path, hpath, h⟩ := Option.bind_eq_some_iff.1 h
      exact ⟨root, hroot, e, he, location, path, hlocation, hpath, Result.toOption_eq_some.1 h⟩
  · rintro ⟨root, hroot, e, he, location, path, hlocation, hpath, htarget⟩
    rw [hroot]
    refine List.mem_filterMap.2 ⟨location, List.mem_filterMap.2 ⟨e, he, hlocation⟩, ?_⟩
    exact Option.bind_eq_some_iff.2 ⟨path, hpath, Result.toOption_eq_some.2 htarget⟩

/-- Where the document of a reference is, according to it. -/
def Item.location? : Item → Option String
  | .reference r => r.location
  | _ => none

/-- A child of a root is read as a reference to where it says that a document is, and to nowhere else. -/
theorem location_of_readItem {setting : Setting} {e : Xml.Element} {item : Item} (h : readItem setting e = .ok item) :
    item.location? = locationOf e := by
  have hc := contributes_of_readItem h
  unfold readItem at h
  unfold locationOf
  generalize Word.of e.name.localName = w at h hc ⊢
  have hrequired {key location : String} (hr : setting.required e key = .ok location) :
      (e.attribute? key).map Text.trim = some location := by
    unfold Setting.required at hr
    split at hr
    · rename_i value hvalue
      cases hr
      rw [hvalue]
      rfl
    · cases hr
  cases w with
  | includes | redefines =>
    obtain ⟨location, hlocation, h⟩ := Result.bind_eq_ok.1 h
    cases h
    exact (hrequired hlocation).symm
  | imports =>
    cases h
    rfl
  | element | attributeUse =>
    obtain ⟨_, rfl, -⟩ := hc
    rfl
  | complexType | simpleType | group | attributeGroup =>
    obtain ⟨_, _, rfl, -⟩ := hc
    rfl
  | _ =>
    rcases hc with rfl | ⟨tag, rfl⟩
    · rfl
    · rfl

/-- What is pending after a document is where a child of its root says. -/
theorem exists_location_of_pending {root : Xml.Element} {location : String} {role : Role} {d : Document}
    (hd : Document.read root location role = .ok d) {base : Option Path} {p : Pending} (hp : p ∈ d.pending base) :
    ∃ e ∈ root.children, ∃ location, locationOf e = some location ∧ Location.resolve? location base = some p.path := by
  obtain ⟨setting, -, hd⟩ := Result.bind_eq_ok.1 hd
  obtain ⟨items, hitems, hd⟩ := Result.bind_eq_ok.1 hd
  cases hd
  obtain ⟨r, hr, hp⟩ := List.mem_filterMap.1 hp
  obtain ⟨location, hlocation, hp⟩ := Option.bind_eq_some_iff.1 hp
  obtain ⟨path, hpath, hp⟩ := Option.bind_eq_some_iff.1 hp
  cases hp
  obtain ⟨item, hm, hreference⟩ := List.mem_filterMap.1 hr
  split at hreference
  · cases hreference
    obtain ⟨e, he, hread⟩ := (exists_of_mapM hitems).2 _ hm
    exact ⟨e, he, location, (location_of_readItem hread).symm.trans hlocation, hpath⟩
  · cases hreference

/-- The references of a document lead where its root says, whatever its role. -/
theorem Source.IsRead.mem_leadsTo_iff {fs : FileSystem} {limits : Limits} {src : Source} (h : src.IsRead fs limits)
    {target : Path} :
    target ∈ leadsTo fs limits src.path ↔ ∃ p ∈ src.references, fs.canonicalize p.path = .ok target := by
  rw [Schema.mem_leadsTo_iff]
  constructor
  · rintro ⟨root, hroot, e, he, location, path, hlocation, hpath, htarget⟩
    obtain rfl : src.root = root := Option.some.inj (h.rootIn?_eq.symm.trans hroot)
    obtain ⟨setting, -, -, hchild, -⟩ := h.exists_setting
    obtain ⟨item, hm, hread⟩ := hchild e he
    have hsays : item.location? = some location := (location_of_readItem hread).trans hlocation
    cases item with
    | reference r =>
      have hr : r ∈ src.document.references := List.mem_filterMap.2 ⟨_, hm, rfl⟩
      have hp : r.pending? src.path.parent? src.document.target = some ⟨path, r.role src.document.target⟩ := by
        have hsays : r.location = some location := hsays
        simp [Reference.pending?, hsays, hpath]
      exact ⟨_, List.mem_filterMap.2 ⟨r, hr, hp⟩, htarget⟩
    | _ => cases hsays
  · rintro ⟨p, hp, htarget⟩
    obtain ⟨e, he, location, hlocation, hpath⟩ := exists_location_of_pending h.document hp
    exact ⟨src.root, h.rootIn?_eq, e, he, location, p.path, hlocation, hpath, htarget⟩

/-- The files that exist and that a compilation of the file at `path` can come to: the primary document, and
what the references of documents among them lead to. -/
inductive Reached (fs : FileSystem) (limits : Limits) (path : Path) : Path → Prop
  | main {file : Path} : fs.canonicalize path = .ok file → Reached fs limits path file
  | reference {file target : Path} :
    Reached fs limits path file → target ∈ leadsTo fs limits file → Reached fs limits path target

/-- Files that lead to none but each other are all that is reached from one of them. -/
theorem Reached.mem_of_closed {fs : FileSystem} {limits : Limits} {path : Path} {files : List Path}
    (hmain : ∀ file, fs.canonicalize path = .ok file → file ∈ files)
    (hclosed : ∀ file ∈ files, ∀ target ∈ leadsTo fs limits file, target ∈ files) {file : Path}
    (h : Reached fs limits path file) : file ∈ files := by
  induction h with
  | main hc => exact hmain _ hc
  | reference _ ht ih => exact hclosed _ ih _ ht

/-! ## The paths met -/

namespace Loaded

variable {fs : FileSystem} {limits : Limits} {l : Loading} {path : Path} {main : Source} {later : List Source}
  {taken : List Pending}

/-- A reference that has been followed or is pending is one of a document. -/
theorem exists_source (h : Loaded fs limits l main later taken) {p : Pending} (hp : p ∈ taken ++ l.pending) :
    ∃ src ∈ main :: later, p ∈ src.references := by
  rw [h.queue] at hp
  exact List.mem_flatMap.1 hp

/-- Documents are reached: each but the primary one by a reference of a document before it. -/
theorem reached_path (h : Loaded fs limits l main later taken) (hc : fs.canonicalize path = .ok main.path) :
    ∀ src ∈ main :: later, Reached fs limits path src.path := by
  -- by induction on the documents read so far, the last of which is referred to by one of the others
  have hprefix : ∀ before, before <+: main :: later → ∀ src ∈ before, Reached fs limits path src.path := by
    intro before
    induction before using List.reverseRecOn with
    | nil => exact fun _ _ => nofun
    | append_singleton before last ih =>
      intro hb src hsrc
      have hbefore := ih ((List.prefix_append before [last]).trans hb)
      rcases List.mem_append.1 hsrc with hsrc | hsrc
      · exact hbefore src hsrc
      rw [List.mem_singleton.1 hsrc]
      by_cases hne : before = []
      · rw [hne, List.nil_append, List.cons_prefix_cons] at hb
        rw [hb.1]
        exact .main hc
      · obtain ⟨p, hp, -, -⟩ := h.reached before last hb hne
        have hreadable : fs.readable? p.path = some last.path := by simpa using List.find?_some hp
        obtain ⟨src', hsrc', hp⟩ := List.mem_flatMap.1 (List.mem_of_find?_eq_some hp)
        have hread := h.read src' (hb.subset (List.mem_append_left _ hsrc'))
        have hleads := hread.mem_leadsTo_iff.2 ⟨p, hp, (FileSystem.readable?_eq_some_iff.1 hreadable).1⟩
        exact (hbefore src' hsrc').reference hleads
  exact hprefix _ (List.prefix_refl _)

/-- What the references lead to that have been followed or are pending is reached. -/
theorem reached_of_reference (h : Loaded fs limits l main later taken) (hc : fs.canonicalize path = .ok main.path)
    {p : Pending} (hp : p ∈ taken ++ l.pending) {file : Path} (hfile : fs.canonicalize p.path = .ok file) :
    Reached fs limits path file := by
  obtain ⟨src, hsrc, hp⟩ := h.exists_source hp
  exact (h.reached_path hc src hsrc).reference ((h.read src hsrc).mem_leadsTo_iff.2 ⟨p, hp, hfile⟩)

theorem reached_of_visited (h : Loaded fs limits l main later taken) (hc : fs.canonicalize path = .ok main.path)
    {file : Path} (hv : file ∈ l.visited) : Reached fs limits path file := by
  rcases (h.visited file).1 hv with rfl | ⟨p, hp, hfile⟩
  · exact .main hc
  · exact h.reached_of_reference hc (List.mem_append_left _ hp) hfile

/-- The documents read are what has been visited and can be read. -/
theorem mem_paths_iff (h : Loaded fs limits l main later taken) {file : Path} :
    file ∈ (main :: later).map Source.path ↔ file ∈ l.visited ∧ ∃ content, fs.read file = .ok content := by
  constructor
  · intro hfile
    obtain ⟨src, hsrc, rfl⟩ := List.mem_map.1 hfile
    obtain ⟨content, hcontent, -⟩ := (h.read src hsrc).root
    refine ⟨(h.mem_visited_iff hcontent).2 ?_, content, hcontent⟩
    rwa [h.order, List.mem_eraseDups] at hfile
  · rintro ⟨hv, content, hcontent⟩
    rw [h.order, List.mem_eraseDups]
    exact (h.mem_visited_iff hcontent).1 hv

/-- When nothing is pending, all that is reached has been visited. -/
theorem visited_of_reached (h : Loaded fs limits l main later taken) (hp : l.pending = [])
    (hc : fs.canonicalize path = .ok main.path) {file : Path} (hr : Reached fs limits path file) :
    file ∈ l.visited := by
  induction hr with
  | main hfile =>
    rw [hc] at hfile
    cases hfile
    exact (h.visited _).2 (.inl rfl)
  -- a file that leads anywhere can be read, so when it was visited its document was read as well
  | @reference file target _ ht ih =>
    obtain ⟨root, hroot, -⟩ := mem_leadsTo_iff.1 ht
    obtain ⟨content, hcontent, -⟩ := rootIn?_eq_some_iff.1 hroot
    obtain ⟨src, hsrc, rfl⟩ := List.mem_map.1 (h.mem_paths_iff.2 ⟨ih, content, hcontent⟩)
    obtain ⟨p, hreference, htarget⟩ := (h.read src hsrc).mem_leadsTo_iff.1 ht
    have htaken : p ∈ taken := by
      have hqueue := h.queue
      rw [hp, List.append_nil] at hqueue
      rw [hqueue]
      exact List.mem_flatMap.2 ⟨src, hsrc, hreference⟩
    exact (h.visited target).2 (.inr ⟨p, htaken, htarget⟩)

end Loaded

/-! ## The count -/

/-- The paths met so far are counted once each, and they are not too many unless there is just the first. -/
structure Counted (limits : Limits) (l : Loading) : Prop where
  nodup : l.visited.Nodup
  length : l.visited.length ≤ max limits.documents 1

/-- A visit that meets a new path has found room for it. -/
theorem Loading.length_lt_of_visit {fs : FileSystem} {limits : Limits} {l l' : Loading} {p : Pending} {file : Path}
    (hc : fs.canonicalize p.path = .ok file) (hnew : file ∉ l.visited)
    (h : (visit limits l p (fs.files p.path)).result = .ok l') : l.visited.length < limits.documents := by
  rw [FileSystem.files_of_ok hc] at h
  simp only [visit, if_neg hnew, Traced.result_bind, Traced.result_lift] at h
  obtain ⟨_, hcount, -⟩ := Result.bind_eq_ok.1 h
  exact Limits.checkDocuments_eq_ok.1 (reportedAt_eq_ok hcount)

theorem Counted.visit {fs : FileSystem} {limits : Limits} {l l' : Loading} {p : Pending} (h : Counted limits l)
    (hv : (Loading.visit limits l p (fs.files p.path)).result = .ok l') : Counted limits l' := by
  have hnew {file : Path} (hc : fs.canonicalize p.path = .ok file) (hm : file ∉ l.visited) :
      (file :: l.visited).Nodup ∧ (file :: l.visited).length ≤ max limits.documents 1 := by
    have hroom := Loading.length_lt_of_visit hc hm hv
    refine ⟨List.nodup_cons.2 ⟨hm, h.nodup⟩, ?_⟩
    rw [List.length_cons]
    omega
  cases Loading.visit_of_result hv with
  | missing hc => exact h
  | again hc hm => exact h
  | unreadable hc hm hr => exact ⟨(hnew hc hm).1, (hnew hc hm).2⟩
  | read src hc hm hlocation hrole hread => exact ⟨(hnew hc hm).1, (hnew hc hm).2⟩

/-- A compilation after some visits has read the documents behind the paths that it has met, and has counted
these paths. -/
theorem exists_counted {fs : FileSystem} {options : Options} {path : Path} {start l : Loading} {n : Nat}
    (hs : (begin options path (fs.files path)).result = .ok start)
    (hn : Loading.after fs.files options.limits n start = .ok l) :
    ∃ main later taken, fs.canonicalize path = .ok main.path ∧ Loaded fs options.limits l main later taken ∧
      Counted options.limits l := by
  obtain ⟨main, hc, -, -, hread, rfl⟩ := Loading.begin_eq_ok hs
  obtain ⟨later, taken, hloaded⟩ := (Loaded.start hread).run hn
  refine ⟨main, later, taken, hc, hloaded, ?_⟩
  have hfirst : Counted options.limits { Loading.start.addSource main with visited := [main.path] } :=
    ⟨List.nodup_singleton _, Nat.le_max_right _ _⟩
  refine Loading.after_induction ?_ hfirst hn
  intro l p rest l' hl _ hv
  exact Counted.visit (l := { l with pending := rest }) ⟨hl.nodup, hl.length⟩ hv

/-- The count of a compilation that fails for it: the paths met before, and a new one. -/
theorem exists_met_of_error {fs : FileSystem} {options : Options} {path : Path} {f : Fault} {count maximum : Nat}
    (h : (compileFile fs.files options path).result = .error f)
    (hf : f.cause = .wrapped (.tooManyDocuments count maximum)) :
    maximum = options.limits.documents ∧ maximum < count ∧ ∃ met : List Path, met.Nodup ∧ met.length = count ∧
      ∀ file ∈ met, Reached fs options.limits path file := by
  have hother {location : String} (hr : f.Refuses location) : False := by
    have hcause := hr.cause
    rw [hf] at hcause
    cases hcause
  rcases compileFile_eq_error h with h | ⟨start, n, l, p, rest, hs, hn, hpending, h⟩ | ⟨s, h⟩
  · exact (hother (failsIn_begin options path _ f h)).elim
  · rcases Loading.failsIn_visit _ _ _ _ f h with hr | ⟨found, hfound, hnew, hmany, rfl⟩
    · exact (hother hr).elim
    cases hf
    obtain ⟨main, later, taken, hc, hloaded, hcounted⟩ := exists_counted hs hn
    have hfile := FileSystem.canonicalize_of_files hfound
    refine ⟨rfl, hmany, found.path :: l.visited, List.nodup_cons.2 ⟨hnew, hcounted.nodup⟩, rfl, ?_⟩
    have hp : p ∈ taken ++ l.pending := by
      rw [hpending]
      exact List.mem_append_right _ (List.mem_cons_self ..)
    intro file hm
    rcases List.mem_cons.1 hm with rfl | hm
    · exact hloaded.reached_of_reference hc hp hfile
    · exact hloaded.reached_of_visited hc hm
  · -- what is counted in the end is global elements
    have hfinish : Result.FailsIn (fun f => f.cause = .wrapped (.tooManyElements s.elements.size options.limits.elements))
        (finish options s).result := by
      simp only [finish, Traced.result_bind]
      exact ((failsIn_complete options.limits s).mono fun _ h => h.2).bind fun _ _ => Result.failsIn_ok _
    rw [hfinish f h] at hf
    cases hf

/-- What the limit on documents counts. The paths that a compilation meets are those that exist and are
reached from the primary document. When it succeeds, they are no more than the limit allows, or just one, and
the sources are those of them that can be read. When it fails for the number of documents, as many of them as
it says are more than the limit allows; if all that is reached can be read, these are readable files. -/
theorem compileFile_count (fs : FileSystem) (options : Options) (path : Path) :
    (∀ s, (compileFile fs.files options path).result = .ok s →
      s.sources.length ≤ max options.limits.documents 1 ∧
      ∃ met : List Path, met.Nodup ∧ met.length ≤ max options.limits.documents 1 ∧
        (∀ file, file ∈ met ↔ Reached fs options.limits path file) ∧
        s.sources.Nodup ∧ ∀ file, file ∈ s.sources ↔ file ∈ met ∧ ∃ content, fs.read file = .ok content) ∧
    ∀ f count maximum, (compileFile fs.files options path).result = .error f →
      f.cause = .wrapped (.tooManyDocuments count maximum) →
      maximum = options.limits.documents ∧ maximum < count ∧
      ∃ met : List Path, met.Nodup ∧ met.length = count ∧ (∀ file ∈ met, Reached fs options.limits path file) ∧
        ((∀ file, Reached fs options.limits path file → ∃ content, fs.read file = .ok content) →
          ∀ file ∈ met, ∃ content, fs.read file = .ok content) := by
  constructor
  · intro s h
    obtain ⟨start, n, final, hs, hn, hp, hf⟩ := compileFile_eq_ok h
    obtain ⟨main, later, taken, hc, hloaded, hcounted⟩ := exists_counted hs hn
    have hsources : s.sources = (main :: later).map Source.path := by
      rw [finish_eq_ok hf, hloaded.schema]
      exact (merged_ofSources (main :: later)).files
    have hnodup : s.sources.Nodup := by
      rw [hsources, hloaded.order]
      exact Keyed.nodup_eraseDups _
    have hmem (file : Path) : file ∈ s.sources ↔ file ∈ final.visited ∧ ∃ content, fs.read file = .ok content := by
      rw [hsources]
      exact hloaded.mem_paths_iff
    have hlength : s.sources.length ≤ final.visited.length :=
      (hnodup.subperm fun file hfile => ((hmem file).1 hfile).1).length_le
    refine ⟨hlength.trans hcounted.length, final.visited, hcounted.nodup, hcounted.length, fun file => ?_, hnodup, hmem⟩
    exact ⟨hloaded.reached_of_visited hc, hloaded.visited_of_reached hp hc⟩
  · intro f count maximum h hf
    obtain ⟨hmaximum, hmany, met, hnodup, hlength, hreached⟩ := exists_met_of_error h hf
    exact ⟨hmaximum, hmany, met, hnodup, hlength, hreached, fun hall file hm => hall file (hreached file hm)⟩

/-- A document that includes a directory and another document. -/
def directoryAndPart : FileTree :=
  { FileTree.ofFiles [("main.xsd", documentBytes ""
      ["<xs:include schemaLocation='d'/>", "<xs:include schemaLocation='b.xsd'/>"]),
    ("b.xsd", documentBytes "" ["<xs:element name='b'/>"])] with
    directories := [[Bytes.ofString "d"]] }

/-- Standard limits, but for the number of documents. -/
def documentsWithin (n : Nat) : Options := ⟨{ Limits.standard with documents := n }, none⟩

/-- Two documents are too many for a limit of two when a directory is among the paths met. -/
theorem failed_directoryAndPart : ∃ f,
    (compileFile directoryAndPart.fileSystem.files (documentsWithin 2) (.ofString "main.xsd")).result = .error f ∧
      f.cause = .wrapped (.tooManyDocuments 3 2) := by
  have hfailed : (failedWithin directoryAndPart.fileSystem.files (documentsWithin 2) (.ofString "main.xsd") 2).map
      (fun f => f.cause) = some (.wrapped (.tooManyDocuments 3 2)) := by
    decide +kernel
  obtain ⟨f, hf, hcause⟩ := Option.map_eq_some_iff.1 hfailed
  exact ⟨f, compileFile_of_failedWithin hf, hcause⟩

theorem compileFile_count_directory :
    (∃ s, (compileFile directoryAndPart.fileSystem.files (documentsWithin 3) (.ofString "main.xsd")).result = .ok s ∧
      s.sources = [.ofString "/main.xsd", .ofString "/b.xsd"] ∧ ∃ met : List Path, met.length ≤ 3 ∧
        ∀ file, file ∈ met ↔ Reached directoryAndPart.fileSystem (documentsWithin 3).limits (.ofString "main.xsd") file) ∧
    ∃ f, (compileFile directoryAndPart.fileSystem.files (documentsWithin 2) (.ofString "main.xsd")).result = .error f ∧
      ∃ met : List Path, met.Nodup ∧ met.length = 3 ∧
        ∀ file ∈ met, Reached directoryAndPart.fileSystem (documentsWithin 2).limits (.ofString "main.xsd") file := by
  constructor
  · have hcomputed : (compiledWithin directoryAndPart.fileSystem.files (documentsWithin 3) (.ofString "main.xsd") 2).map
        (fun s => s.sources) = some [.ofString "/main.xsd", .ofString "/b.xsd"] := by
      decide +kernel
    obtain ⟨s, hcompiled, hsources⟩ := exists_compileFile hcomputed
    obtain ⟨-, met, -, hlength, hmet, -⟩ := (compileFile_count _ _ _).1 s hcompiled
    exact ⟨s, hcompiled, hsources, met, hlength, hmet⟩
  · obtain ⟨f, hfailed, hcause⟩ := failed_directoryAndPart
    obtain ⟨-, -, met, hnodup, hlength, hreached, -⟩ := (compileFile_count _ _ _).2 f 3 2 hfailed hcause
    exact ⟨f, hfailed, met, hnodup, hlength, hreached⟩

/-- The limit does not count the documents. One document is compiled when none is allowed, and a compilation
fails for the number of documents though there are no more than are allowed. -/
theorem not_count_documents :
    (¬∀ (fs : FileSystem) (options : Options) (path : Path) (s : Schema),
      (compileFile fs.files options path).result = .ok s → s.sources.length ≤ options.limits.documents) ∧
    ¬∀ (fs : FileSystem) (options : Options) (path : Path) (f : Fault) (count maximum : Nat),
      (compileFile fs.files options path).result = .error f → f.cause = .wrapped (.tooManyDocuments count maximum) →
        ∃ files : List Path, files.Nodup ∧ options.limits.documents < files.length ∧
          ∀ file ∈ files, Reached fs options.limits path file ∧ ∃ content, fs.read file = .ok content := by
  constructor
  · intro hall
    have hcomputed : (compiledWithin directoryAndPart.fileSystem.files (documentsWithin 0) (.ofString "b.xsd") 0).map
        (fun s => s.sources.length) = some 1 := by
      decide +kernel
    obtain ⟨s, hcompiled, hlength⟩ := exists_compileFile hcomputed
    have hnone : s.sources.length ≤ 0 := hall _ _ _ s hcompiled
    omega
  · intro hall
    obtain ⟨f, hfailed, hcause⟩ := failed_directoryAndPart
    obtain ⟨files, hnodup, hmany, hfiles⟩ := hall _ _ _ f 3 2 hfailed hcause
    have hmain : directoryAndPart.canonicalize (.ofString "main.xsd") = .ok (.ofString "/main.xsd") := by
      decide +kernel
    have hclosed : ∀ file ∈ [Path.ofString "/main.xsd", .ofString "/b.xsd", .ofString "/d"],
        ∀ target ∈ leadsTo directoryAndPart.fileSystem (documentsWithin 2).limits file,
          target ∈ [Path.ofString "/main.xsd", .ofString "/b.xsd", .ofString "/d"] := by
      decide +kernel
    have hdirectory : (directoryAndPart.read (.ofString "/d")).toOption = none := by
      decide +kernel
    have hsubset : files ⊆ [Path.ofString "/main.xsd", .ofString "/b.xsd"] := by
      intro file hm
      obtain ⟨hreached, content, hcontent⟩ := hfiles file hm
      have hmet := hreached.mem_of_closed (fun file hfile => by
        rw [show directoryAndPart.fileSystem.canonicalize = directoryAndPart.canonicalize from rfl, hmain] at hfile
        cases hfile
        exact List.mem_cons_self ..) hclosed
      simp only [List.mem_cons, List.not_mem_nil, or_false] at hmet ⊢
      rcases hmet with rfl | rfl | rfl
      · exact .inl rfl
      · exact .inr rfl
      · have hread : directoryAndPart.read (.ofString "/d") = .ok content := hcontent
        rw [hread] at hdirectory
        cases hdirectory
    have hlength : files.length ≤ 2 := (hnodup.subperm hsubset).length_le
    have htwo : 2 < files.length := hmany
    omega

end SchemaHints.Schema
