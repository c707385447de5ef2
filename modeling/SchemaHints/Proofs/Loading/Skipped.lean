/-
References that are skipped. A reference to a document elsewhere, to a path that does not exist, or to no place at
all leads to no visit that does anything; so a compilation goes the same way without it. Two compilations, one of
them of files in which such references are missing, are followed side by side. They have the same schema and have
visited the same paths, and the same is pending apart from paths that do not exist; a step that the one makes and
the other does not is the visit of such a path, which changes nothing.
-/
import SchemaHints.Proofs.Fault.Result
import SchemaHints.Proofs.Loading.Count

namespace SchemaHints

/-- A file system with another content of one file. -/
def FileSystem.withContent (fs : FileSystem) (file : Path) (content : Bytes) : FileSystem :=
  { fs with read := fun path => if path = file then .ok content else fs.read path }

namespace Schema

open Xml (Element)
open Result

variable {fs fs' : FileSystem} {limits : Limits} {base : Option Path}

/-! ## Skipped references -/

/-- Whether an element is an include or a redefinition, or the import of another namespace than the XML one. -/
def IsReference (e : Element) : Prop :=
  Word.of e.name.localName = .includes ∨ Word.of e.name.localName = .redefines ∨
    Word.of e.name.localName = .imports ∧ e.attribute? "namespace" ≠ some xmlNamespace

/-- A reference in a document of the directory `base` that is skipped: the import of no document, or a reference
whose location is remote or names a path that does not exist. -/
inductive Skipped (fs : FileSystem) (base : Option Path) (e : Element) : Prop
  | unlocated : Word.of e.name.localName = .imports → e.attribute? "namespace" ≠ some xmlNamespace →
    e.attribute? "schemaLocation" = none → Skipped fs base e
  | remote {location : String} : IsReference e → e.attribute? "schemaLocation" = some location →
    Location.resolve? (Text.trim location) base = none → Skipped fs base e
  | missing {location : String} {path : Path} {reason : FileFault} : IsReference e →
    e.attribute? "schemaLocation" = some location → Location.resolve? (Text.trim location) base = some path →
      fs.canonicalize path = .error reason → Skipped fs base e

/-- The root of a document as it is, or without a skipped reference among its children. -/
inductive Pruned (fs : FileSystem) (base : Option Path) (root : Element) : Element → Prop
  | same : Pruned fs base root root
  | without {before : List Element} {reference : Element} {after : List Element} :
    root.children = before ++ reference :: after → Skipped fs base reference →
      Pruned fs base root { root with children := before ++ after }

/-- The pending documents whose paths exist. -/
def existing (fs : FileSystem) (ps : List Pending) : List Pending :=
  ps.filter fun p => (fs.canonicalize p.path).toOption.isSome

theorem Skipped.isReference {e : Element} (h : Skipped fs base e) : IsReference e := by
  cases h with
  | unlocated himports hspace _ => exact .inr (.inr ⟨himports, hspace⟩)
  | remote href _ _ => exact href
  | missing href _ _ _ => exact href

/-- A reference is read as one that does not import the XML namespace. -/
theorem exists_reference {setting : Setting} {e : Element} (h : IsReference e) {item : Item}
    (hitem : readItem setting e = .ok item) : ∃ r : Reference, item = .reference r ∧ r.importsXml = false ∧
      r.location = (e.attribute? "schemaLocation").map Text.trim := by
  have hlocation := location_of_readItem hitem
  unfold readItem at hitem
  unfold locationOf at hlocation
  rcases h with hw | hw | ⟨hw, hspace⟩
  · rw [hw] at hitem hlocation
    obtain ⟨location, -, hitem⟩ := Result.bind_eq_ok.1 hitem
    cases hitem
    exact ⟨_, rfl, rfl, hlocation⟩
  · rw [hw] at hitem hlocation
    obtain ⟨location, -, hitem⟩ := Result.bind_eq_ok.1 hitem
    cases hitem
    exact ⟨_, rfl, rfl, hlocation⟩
  · rw [hw] at hitem hlocation
    cases hitem
    exact ⟨_, rfl, by simp [Reference.importsXml, hspace], hlocation⟩

theorem existing_append (ps qs : List Pending) : existing fs (ps ++ qs) = existing fs ps ++ existing fs qs :=
  List.filter_append ..

theorem existing_cons_of_error {p : Pending} {reason : FileFault} (h : fs.canonicalize p.path = .error reason)
    (ps : List Pending) : existing fs (p :: ps) = existing fs ps := by
  rw [existing, List.filter_cons_of_neg]
  · rfl
  · rw [h]
    exact Bool.false_ne_true

theorem existing_cons_of_ok {p : Pending} {path : Path} (h : fs.canonicalize p.path = .ok path) (ps : List Pending) :
    existing fs (p :: ps) = p :: existing fs ps := by
  rw [existing, List.filter_cons_of_pos]
  · rfl
  · rw [h]
    rfl

theorem missing_of_not_existing {p : Pending} (h : (fs.canonicalize p.path).toOption.isSome ≠ true) :
    ∃ reason, fs.canonicalize p.path = .error reason := by
  rcases hpath : fs.canonicalize p.path with reason | path
  · exact ⟨reason, rfl⟩
  · rw [hpath] at h
    exact absurd rfl h

theorem missing_of_existing_eq_nil {ps : List Pending} (h : existing fs ps = []) :
    ∀ p ∈ ps, ∃ reason, fs.canonicalize p.path = .error reason :=
  fun p hp => missing_of_not_existing (List.filter_eq_nil_iff.1 h p hp)

/-- Before the first pending document whose path exists stand those whose paths do not. -/
theorem exists_of_existing_eq_cons {ps rest : List Pending} {p : Pending} (h : existing fs ps = p :: rest) :
    ∃ missing rest', ps = missing ++ p :: rest' ∧ existing fs rest' = rest ∧
      ∀ q ∈ missing, ∃ reason, fs.canonicalize q.path = .error reason := by
  obtain ⟨missing, rest', hps, hmissing, -, hrest⟩ := List.filter_eq_cons_iff.1 h
  exact ⟨missing, rest', hps, hrest, fun q hq => missing_of_not_existing (hmissing q hq)⟩

/-! ## Documents without a reference -/

/-- What is read of a skipped reference leads to no path that exists, and does not import the XML namespace. -/
theorem reference_of_skipped {setting : Setting} {e : Element} (h : Skipped fs base e) {item : Item}
    (hitem : readItem setting e = .ok item) : ∃ r : Reference, item = .reference r ∧ r.importsXml = false ∧
      ∀ target, existing fs (r.pending? base target).toList = [] := by
  obtain ⟨r, rfl, hxml, hlocation⟩ := exists_reference h.isReference hitem
  refine ⟨r, rfl, hxml, fun target => ?_⟩
  cases h with
  | unlocated _ _ hnone =>
    rw [Reference.pending?, hlocation, hnone]
    rfl
  | remote _ hvalue hremote =>
    rw [Reference.pending?, hlocation, hvalue, Option.map_some, Option.bind_eq_bind, Option.bind_some, hremote]
    rfl
  | missing _ hvalue hpath hmissing =>
    rw [Reference.pending?, hlocation, hvalue, Option.map_some, Option.bind_eq_bind, Option.bind_some, hpath]
    exact existing_cons_of_error hmissing []

/-- Two documents that make the same of a compilation. -/
structure Document.Alike (fs : FileSystem) (base : Option Path) (d d' : Document) : Prop where
  target : d'.target = d.target
  elements : d'.elements = d.elements
  types : d'.types = d.types
  groups : d'.groups = d.groups
  attributeGroups : d'.attributeGroups = d.attributeGroups
  attributes : d'.attributes = d.attributes
  importsXml : d'.references.any Reference.importsXml = d.references.any Reference.importsXml
  pending : existing fs (d'.pending base) = existing fs (d.pending base)

namespace Document

theorem Alike.refl (d : Document) : d.Alike fs base d := ⟨rfl, rfl, rfl, rfl, rfl, rfl, rfl, rfl⟩

theorem Alike.merge {d d' : Document} (h : d.Alike fs base d') (s : Schema) : s.merge d' = s.merge d := by
  unfold Schema.merge
  rw [h.elements, h.types, h.groups, h.attributeGroups, h.attributes]

theorem pending_concat_cons {target : String} (before after : List Item) (r : Reference) :
    pending ⟨target, before ++ .reference r :: after⟩ base =
      pending ⟨target, before⟩ base ++ ((r.pending? base target).toList ++ pending ⟨target, after⟩ base) := by
  simp only [pending, references, List.filterMap_append, List.filterMap_cons]
  cases r.pending? base target <;> rfl

theorem alike_without {target : String} {before after : List Item} {r : Reference}
    (hxml : r.importsXml = false) (hpending : existing fs (r.pending? base target).toList = []) :
    Document.Alike fs base ⟨target, before ++ .reference r :: after⟩ ⟨target, before ++ after⟩ where
  target := rfl
  elements := by simp [elements]
  types := by simp [types]
  groups := by simp [groups]
  attributeGroups := by simp [attributeGroups]
  attributes := by simp [attributes]
  importsXml := by simp [references, hxml]
  pending := by
    rw [pending_concat_cons, existing_append, existing_append, hpending, List.nil_append, ← existing_append]
    simp only [pending, references, List.filterMap_append]

end Document

theorem Pruned.settingOf {root root' : Element} (h : Pruned fs base root root') (location : String) (role : Role) :
    Setting.of root' location role = Setting.of root location role := by
  cases h with
  | same => rfl
  | without => rfl

theorem Pruned.checkTarget {root root' : Element} (h : Pruned fs base root root') (expected : Option String)
    (location : String) : checkTarget expected root' location = checkTarget expected root location := by
  cases h with
  | same => rfl
  | without => rfl

/-- A document that is read is read without a skipped reference, too. -/
theorem Pruned.read {root root' : Element} (h : Pruned fs base root root') (location : String) (role : Role) :
    KeptAs (Document.Alike fs base) (Document.read root location role) (Document.read root' location role) := by
  intro d hd
  obtain ⟨setting, hsetting, hd⟩ := Result.bind_eq_ok.1 hd
  rw [← h.settingOf] at hsetting
  cases h with
  | same => exact ⟨d, Result.bind_eq_ok.2 ⟨setting, hsetting, hd⟩, .refl d⟩
  | without hchildren hskipped =>
    rw [hchildren, List.mapM_append, List.mapM_cons] at hd
    obtain ⟨items, hitems, hd⟩ := Result.bind_eq_ok.1 hd
    cases hd
    obtain ⟨first, hfirst, hitems⟩ := Result.bind_eq_ok.1 hitems
    obtain ⟨_, hrest, hitems⟩ := Result.bind_eq_ok.1 hitems
    cases hitems
    obtain ⟨item, hitem, hrest⟩ := Result.bind_eq_ok.1 hrest
    obtain ⟨later, hlater, hrest⟩ := Result.bind_eq_ok.1 hrest
    cases hrest
    obtain ⟨r, rfl, hxml, hpending⟩ := reference_of_skipped hskipped hitem
    refine ⟨⟨setting.target, first ++ later⟩, Result.bind_eq_ok.2 ⟨setting, hsetting, ?_⟩,
      Document.alike_without hxml (hpending _)⟩
    rw [List.mapM_append, hfirst, Result.ok_bind, hlater]
    rfl

/-! ## Files without a reference -/

/-- Two contents of a file in the directory `base`, the second without a skipped reference of the first. -/
structure Sheds (fs : FileSystem) (limits : Limits) (base : Option Path) (content content' : Bytes) : Prop where
  shorter : content'.length ≤ content.length
  roots : ∃ root root', Xml.rootOf limits content = .ok (some root) ∧ Xml.rootOf limits content' = .ok (some root') ∧
    Pruned fs base root root'

theorem pruned_refl (root : Option Element) : Option.Rel (Pruned fs base) root root := by
  cases root with
  | none => exact .none
  | some root => exact .some .same

theorem Sheds.rootOf {content content' : Bytes} (h : Sheds fs limits base content content') :
    KeptAs (Option.Rel (Pruned fs base)) (Xml.rootOf limits content) (Xml.rootOf limits content') := by
  obtain ⟨root, root', hroot, hroot', hpruned⟩ := h.roots
  rw [hroot, hroot']
  exact keptAs_ok (.some hpruned)

/-- Two file systems with the same paths, and in the second with skipped references missing from files. -/
structure Lighter (fs fs' : FileSystem) (limits : Limits) : Prop where
  canonicalize : fs'.canonicalize = fs.canonicalize
  read : ∀ path, fs'.read path = fs.read path ∨ ∃ content content', fs.read path = .ok content ∧
    fs'.read path = .ok content' ∧ Sheds fs limits path.parent? content content'

namespace Lighter

theorem refl (fs : FileSystem) (limits : Limits) : Lighter fs fs limits := ⟨rfl, fun _ => .inl rfl⟩

theorem withContent {file : Path} {content content' : Bytes} (hread : fs.read file = .ok content)
    (h : Sheds fs limits file.parent? content content') : Lighter fs (fs.withContent file content') limits where
  canonicalize := rfl
  read path := by
    by_cases hpath : path = file
    · rw [hpath]
      exact .inr ⟨content, content', hread, if_pos rfl, h⟩
    · exact .inl (if_neg hpath)

variable {path : Path}

theorem read_of_error (h : Lighter fs fs' limits) {reason : FileFault} (hread : fs.read path = .error reason) :
    fs'.read path = .error reason := by
  rcases h.read path with hsame | ⟨content, _, hcontent, -, -⟩
  · rw [hsame, hread]
  · rw [hread] at hcontent
    cases hcontent

/-- What can be read can be read without skipped references, which makes it no longer. -/
theorem exists_read (h : Lighter fs fs' limits) {content : Bytes} (hread : fs.read path = .ok content) :
    ∃ content', fs'.read path = .ok content' ∧ content'.length ≤ content.length ∧
      KeptAs (Option.Rel (Pruned fs path.parent?)) (Xml.rootOf limits content) (Xml.rootOf limits content') := by
  rcases h.read path with hsame | ⟨_, content', hcontent, hcontent', hsheds⟩
  · exact ⟨content, hsame.trans hread, le_rfl, keptAs_refl pruned_refl _⟩
  · rw [hread] at hcontent
    cases hcontent
    exact ⟨content', hcontent', hsheds.shorter, hsheds.rootOf⟩

end Lighter

theorem keptAs_checkSize {n n' : Nat} (h : n' ≤ n) (limits : Limits) :
    KeptAs Eq (limits.checkSize n) (limits.checkSize n') :=
  fun _ hn => ⟨(), Limits.checkSize_eq_ok.2 (h.trans (Limits.checkSize_eq_ok.1 hn)), rfl⟩

theorem keptAs_rootAt (location : String) {root root' : Option Element}
    (h : Option.Rel (Pruned fs base) root root') :
    KeptAs (Pruned fs base) (rootAt location root) (rootAt location root') := by
  cases h with
  | none => exact fun _ => nofun
  | some h => exact keptAs_ok h

theorem Lighter.root {path : Path} (h : Lighter fs fs' limits) :
    KeptAs (Option.Rel (Pruned fs path.parent?)) (Found.root limits ⟨path, fs.read path⟩)
      (Found.root limits ⟨path, fs'.read path⟩) := by
  unfold Found.root Found.bytes
  rcases hread : fs.read path with reason | content
  · exact fun _ => nofun
  · obtain ⟨content', hread', hshorter, hroots⟩ := h.exists_read hread
    rw [hread']
    refine KeptAs.bind (R := fun c c' => c = content ∧ c' = content') ?_ ?_
    · exact (keptAs_checkSize hshorter limits).bind fun _ _ _ => keptAs_ok ⟨rfl, rfl⟩
    · rintro _ _ ⟨rfl, rfl⟩
      exact hroots

/-! ## Visits side by side -/

/-- Two states of compilations between two visits that come to the same. -/
structure Loading.Alike (fs : FileSystem) (l l' : Loading) : Prop where
  schema : l'.schema = l.schema
  visited : l'.visited = l.visited
  pending : existing fs l'.pending = existing fs l.pending

namespace Loading

variable {l l' : Loading}

theorem Alike.refl (l : Loading) : Alike fs l l := ⟨rfl, rfl, rfl⟩

theorem Alike.add (h : Alike fs l l') {root root' : Element} (hroot : Pruned fs base root root') (location : String)
    (role : Role) :
    KeptAs (Alike fs) (l.add root location base role).result (l'.add root' location base role).result := by
  simp only [Loading.add, Traced.result_bind, Traced.result_lift, Traced.result_line, Traced.result_nested,
    Traced.result_lines, Traced.result_pure]
  refine (hroot.read location role).bind fun d d' hd => keptAs_ok ⟨?_, h.visited, ?_⟩
  · simp only [h.schema, hd.merge, hd.target, hd.importsXml]
  · simp only [existing_append, h.pending, hd.pending]

theorem Alike.addFound (h : Alike fs l l') {content content' : Bytes} {path : Path}
    (hroots : KeptAs (Option.Rel (Pruned fs path.parent?)) (Xml.rootOf limits content) (Xml.rootOf limits content'))
    (location : String) (role : Role) :
    KeptAs (Alike fs) (l.addFound limits location role content path).result
      (l'.addFound limits location role content' path).result := by
  simp only [Loading.addFound, Traced.result_bind, Traced.result_lift, Traced.result_pure]
  refine (hroots.reportedAt location).bind fun root root' hroot => ?_
  refine (keptAs_rootAt location hroot).bind fun root root' hroot => ?_
  refine (h.add hroot location role).bind fun m m' hm => keptAs_ok ⟨?_, hm.visited, hm.pending⟩
  rw [hm.schema]

/-- A visit of the one compilation is one of the other, which comes to the same. -/
theorem Alike.visit (h : Alike fs l l') (hfs : Lighter fs fs' limits) (p : Pending) :
    KeptAs (Alike fs) (visit limits l p (fs.files p.path)).result (visit limits l' p (fs'.files p.path)).result := by
  rcases hpath : fs.canonicalize p.path with reason | path
  · rw [FileSystem.files_of_error hpath, FileSystem.files_of_error (hfs.canonicalize ▸ hpath)]
    exact keptAs_ok h
  rw [FileSystem.files_of_ok hpath, FileSystem.files_of_ok (hfs.canonicalize ▸ hpath)]
  simp only [Loading.visit, h.visited]
  by_cases hvisited : path ∈ l.visited
  · rw [if_pos hvisited, if_pos hvisited]
    exact keptAs_ok h
  rw [if_neg hvisited, if_neg hvisited]
  simp only [Traced.result_bind, Traced.result_lift]
  refine (keptAs_refl (fun _ => rfl) _).bind (R := Eq) fun _ _ _ => ?_
  -- the path is met before its file is read, whatever the file holds
  have hvisiting : Alike fs { l with visited := path :: l.visited } { l' with visited := path :: l.visited } :=
    ⟨h.schema, rfl, h.pending⟩
  rcases hread : fs.read path with reason | content
  · rw [hfs.read_of_error hread]
    exact keptAs_ok hvisiting
  · obtain ⟨content', hread', hshorter, hroots⟩ := hfs.exists_read hread
    rw [hread']
    simp only [Traced.result_bind, Traced.result_lift]
    refine ((keptAs_checkSize hshorter limits).reportedAt p.path.text).bind fun _ _ _ => ?_
    exact hvisiting.addFound hroots p.path.text p.role

/-! ## Compilations side by side -/

/-- Visits of paths that do not exist change nothing. -/
theorem visitAll_missing (hfs : Lighter fs fs' limits) {missing rest : List Pending} (hl : l.pending = missing ++ rest)
    (hmissing : ∀ p ∈ missing, ∃ reason, fs.canonicalize p.path = .error reason) :
    (l.visitAll fs'.files limits).result = (visitAll fs'.files limits { l with pending := rest }).result := by
  induction missing generalizing l with
  | nil =>
    rw [List.nil_append] at hl
    rw [← hl]
  | cons p missing ih =>
    obtain ⟨⟨reason, hp⟩, hmissing⟩ := List.forall_mem_cons.1 hmissing
    rw [visitAll_cons hl, Traced.result_bind, FileSystem.files_of_error (hfs.canonicalize ▸ hp)]
    exact ih rfl hmissing

/-- When nothing is pending in the one compilation, what is pending in the other does not exist. -/
theorem Alike.visitAll_nil (h : Alike fs l l') (hfs : Lighter fs fs' limits) (hl : l.pending = []) :
    (l'.visitAll fs'.files limits).result = .ok l.schema := by
  have hpending : existing fs l'.pending = [] := by
    rw [h.pending, hl]
    rfl
  rw [visitAll_missing hfs (List.append_nil _).symm (missing_of_existing_eq_nil hpending), Loading.visitAll_nil rfl]
  exact congrArg Except.ok h.schema

/-- A loading goes the same way without skipped references. -/
theorem Alike.visitAll (h : Alike fs l l') (hfs : Lighter fs fs' limits) {n : Nat} {final : Loading}
    (hn : after fs.files limits n l = .ok final) (hfinal : final.pending = []) :
    (l'.visitAll fs'.files limits).result = .ok final.schema := by
  -- along the visits of the first compilation; the second makes up for its own when the next common one comes
  induction n generalizing l l' with
  | zero =>
    cases hn
    exact h.visitAll_nil hfs hfinal
  | succ n ih =>
    rcases hl : l.pending with _ | ⟨p, rest⟩
    · rw [after_of_nil hl] at hn
      cases hn
      exact h.visitAll_nil hfs hl
    rw [after_of_cons hl] at hn
    obtain ⟨m, hm, hn⟩ := Result.bind_eq_ok.1 hn
    have hpending := h.pending
    rw [hl] at hpending
    rcases hpath : fs.canonicalize p.path with reason | path
    -- the other compilation has made this visit already, or never makes it
    · rw [FileSystem.files_of_error hpath] at hm
      cases hm
      rw [existing_cons_of_error hpath] at hpending
      have hnext : Alike fs { l with pending := rest } l' := ⟨h.schema, h.visited, hpending⟩
      exact ih hnext hn
    · rw [existing_cons_of_ok hpath] at hpending
      obtain ⟨missing, rest', hl', hrest, hmissing⟩ := exists_of_existing_eq_cons hpending
      have hnext : Alike fs { l with pending := rest } { l' with pending := rest' } := ⟨h.schema, h.visited, hrest⟩
      obtain ⟨m', hm', halike⟩ := hnext.visit hfs p m hm
      rw [visitAll_missing hfs hl' hmissing, visitAll_cons rfl, Traced.result_bind, hm']
      exact ih halike hn

end Loading

theorem Lighter.begin {options : Options} (h : Lighter fs fs' options.limits) (path : Path) :
    KeptAs (Loading.Alike fs) (begin options path (fs.files path)).result
      (begin options path (fs'.files path)).result := by
  rcases hpath : fs.canonicalize path with reason | file
  · rw [FileSystem.files_of_error hpath]
    exact fun _ => nofun
  rw [FileSystem.files_of_ok hpath, FileSystem.files_of_ok (h.canonicalize ▸ hpath)]
  simp only [Schema.begin, Traced.result_bind, Traced.result_lift, Traced.result_line, Traced.result_pure]
  refine (h.root.reportedAt path.text).bind fun _ _ hroot => ?_
  refine (keptAs_rootAt path.text hroot).bind fun root root' hroot => ?_
  rw [hroot.checkTarget]
  refine (keptAs_refl (fun _ => rfl) _).bind (R := Eq) fun _ _ _ => ?_
  refine ((Loading.Alike.refl .start).add hroot path.text .primary).bind fun l l' hl => ?_
  exact keptAs_ok ⟨by rw [hl.schema], rfl, hl.pending⟩

/-- A file compiles to the same schema when skipped references are missing from files. -/
theorem Lighter.compileFile {options : Options} (h : Lighter fs fs' options.limits) {path : Path} {s : Schema}
    (hs : (compileFile fs.files options path).result = .ok s) :
    (compileFile fs'.files options path).result = .ok s := by
  obtain ⟨l, n, final, hbegin, hn, hfinal, hfinish⟩ := compileFile_eq_ok hs
  obtain ⟨l', hbegin', hl⟩ := h.begin path l hbegin
  rw [compileFile_eq, Traced.result_bind, hbegin', Result.ok_bind, Traced.result_bind,
    hl.visitAll h hn hfinal]
  exact hfinish

/-- A text compiles to the same schema when skipped references are missing from it or from files. -/
theorem Lighter.compileText (h : Lighter fs fs' .standard) {text text' : String}
    (hroots : KeptAs (Option.Rel (Pruned fs none)) (Xml.rootOf .standard (Bytes.ofString text))
      (Xml.rootOf .standard (Bytes.ofString text'))) {s : Schema} (hs : compileText fs.files text = .ok s) :
    compileText fs'.files text' = .ok s := by
  obtain ⟨found, hfound, hs⟩ := Result.bind_eq_ok.1 hs
  obtain ⟨found', hfound', hpruned⟩ := hroots.reportedAt "<string>" found hfound
  refine Result.bind_eq_ok.2 ⟨found', hfound', ?_⟩
  cases hpruned with
  | none => cases hs
  | some hpruned =>
    obtain ⟨l, hl, hs⟩ := Result.bind_eq_ok.1 hs
    obtain ⟨loaded, hloaded, hs⟩ := Result.bind_eq_ok.1 hs
    obtain ⟨l', hl', halike⟩ := (Loading.Alike.refl .start).add hpruned "<string>" .primary l hl
    obtain ⟨n, final, hn, hfinal, rfl⟩ := Loading.exists_after_of_visitAll l hloaded
    exact Result.bind_eq_ok.2 ⟨l', hl', Result.bind_eq_ok.2 ⟨_, halike.visitAll h hn hfinal, hs⟩⟩

/-! ## Compilations without a reference -/

/-- A skipped reference makes no difference to a compilation, in whichever document it stands. What compiles with it
compiles without it, and to the same schema. -/
theorem compile_withoutSkipped (fs : FileSystem) :
    (∀ options path s file content content', fs.read file = .ok content →
      Sheds fs options.limits file.parent? content content' → (compileFile fs.files options path).result = .ok s →
        (compileFile (fs.withContent file content').files options path).result = .ok s) ∧
    ∀ text s, compileText fs.files text = .ok s →
      (∀ text', Sheds fs .standard none (Bytes.ofString text) (Bytes.ofString text') →
        compileText fs.files text' = .ok s) ∧
      ∀ file content content', fs.read file = .ok content → Sheds fs .standard file.parent? content content' →
        compileText (fs.withContent file content').files text = .ok s := by
  refine ⟨fun options path s file content content' hread hsheds hs => ?_, fun text s hs => ⟨fun text' hsheds => ?_,
    fun file content content' hread hsheds => ?_⟩⟩
  · exact (Lighter.withContent hread hsheds).compileFile hs
  · exact (Lighter.refl fs .standard).compileText hsheds.rootOf hs
  · exact (Lighter.withContent hread hsheds).compileText (keptAs_refl pruned_refl _) hs

deriving instance DecidableEq for Xml.Event

/-- The schema of a text, if its documents are all loaded after `n` visits. -/
def compiledTextWithin (files : Files) (text : String) (n : Nat) : Option Schema := do
  let found ← (Xml.rootOf .standard (Bytes.ofString text)).toOption
  let root ← found
  let l ← (Loading.start.add root "<string>" none .primary).result.toOption
  let final ← (Loading.after files .standard n l).toOption
  if final.pending.isEmpty then (complete .standard final.schema).result.toOption else none

/-- What is computed from the schema of a text is told of its compilation. -/
theorem exists_compileText {files : Files} {text : String} {n : Nat} {α : Type} {f : Schema → α} {a : α}
    (h : (compiledTextWithin files text n).map f = some a) : ∃ s, compileText files text = .ok s ∧ f s = a := by
  obtain ⟨s, hs, rfl⟩ := Option.map_eq_some_iff.1 h
  refine ⟨s, ?_, rfl⟩
  obtain ⟨found, hfound, hs⟩ := Option.bind_eq_some_iff.1 hs
  obtain ⟨root, hsome, hs⟩ := Option.bind_eq_some_iff.1 hs
  obtain ⟨l, hl, hs⟩ := Option.bind_eq_some_iff.1 hs
  obtain ⟨final, hfinal, hs⟩ := Option.bind_eq_some_iff.1 hs
  have hroot : Xml.rootOf .standard (Bytes.ofString text) = .ok (some root) := by
    rw [Result.toOption_eq_some.1 hfound, hsome]
  split at hs
  · rename_i hpending
    exact compileText_of_after hroot (Result.toOption_eq_some.1 hl) (Result.toOption_eq_some.1 hfinal)
      (List.isEmpty_iff.1 hpending) (Result.toOption_eq_some.1 hs)
  · cases hs

/-- The text of a schema document with these children of its root. -/
def schemaText (children : String) : String :=
  "<xs:schema " ++ "xmlns:xs='http://" ++ "www.w3.org/2001/" ++ "XMLSchema'>" ++ children ++ "</xs:schema>"

/-- A schema that declares an element, with or without a reference before it. -/
def partText (reference : String) : String := schemaText (reference ++ "<xs:element " ++ "name='part'/>")

/-- An include of a document that is not there. -/
def missingInclude : String := "<xs:include " ++ "schemaLocation=" ++ "'missing.xsd'/>"

/-- A node of such a schema. -/
def partNode (tag : String) (attributes : List (Name × String)) (children : List Element) : Element :=
  ⟨⟨schemaNamespace, tag⟩, attributes, ⟨[("xs", schemaNamespace)], ""⟩, children⟩

/-- The include, as it is read. -/
def missingNode : Element := partNode "include" [(.plain "schemaLocation", "missing.xsd")] []

/-- The schema, as it is read. -/
def partRoot (references : List Element) : Element :=
  partNode "schema" [] (references ++ [partNode "element" [(.plain "name", "part")] []])

theorem rootOf_partText :
    Xml.rootOf .standard (Bytes.ofString (partText missingInclude)) = .ok (some (partRoot [missingNode])) ∧
      Xml.rootOf .standard (Bytes.ofString (partText "")) = .ok (some (partRoot [])) := by
  have hwith : Xml.eventsOf (Bytes.ofString (partText missingInclude)) =
      [.opening (.ok ⟨"xs:schema", [("xmlns:xs", schemaNamespace)]⟩),
        .selfClosing (.ok ⟨"xs:include", [("schemaLocation", "missing.xsd")]⟩),
        .selfClosing (.ok ⟨"xs:element", [("name", "part")]⟩), .closing] := by
    decide +kernel
  have hwithout : Xml.eventsOf (Bytes.ofString (partText "")) =
      [.opening (.ok ⟨"xs:schema", [("xmlns:xs", schemaNamespace)]⟩),
        .selfClosing (.ok ⟨"xs:element", [("name", "part")]⟩), .closing] := by
    decide +kernel
  constructor
  · rw [Xml.rootOf, hwith]
    rfl
  · rw [Xml.rootOf, hwithout]
    rfl

theorem sheds_partText (h : Skipped fs base missingNode) :
    Sheds fs .standard base (Bytes.ofString (partText missingInclude)) (Bytes.ofString (partText "")) where
  shorter := by decide +kernel
  roots := by
    have hchildren : (partRoot [missingNode]).children = [] ++ missingNode :: (partRoot []).children := rfl
    exact ⟨partRoot [missingNode], partRoot [], rootOf_partText.1, rootOf_partText.2, .without hchildren h⟩

/-- A document that includes that schema. -/
def mainText : String := schemaText ("<xs:include " ++ "schemaLocation=" ++ "'part.xsd'/>")

/-- Both documents. -/
def mainAndPart : FileSystem := FileTree.fileSystem <| .ofFiles
  [("main.xsd", Bytes.ofString mainText), ("part.xsd", Bytes.ofString (partText missingInclude))]

theorem compile_withoutSkipped_part :
    (∃ s, (compileFile mainAndPart.files .standard (.ofString "main.xsd")).result = .ok s ∧
      s.sources = [.ofString "/main.xsd", .ofString "/part.xsd"] ∧
      (compileFile (mainAndPart.withContent (.ofString "/part.xsd") (Bytes.ofString (partText ""))).files .standard
        (.ofString "main.xsd")).result = .ok s) ∧
    (∃ s, compileText mainAndPart.files mainText = .ok s ∧ s.sources = [.ofString "/part.xsd"] ∧
      compileText (mainAndPart.withContent (.ofString "/part.xsd") (Bytes.ofString (partText ""))).files mainText =
        .ok s) ∧
    ∃ s, compileText mainAndPart.files (partText missingInclude) = .ok s ∧ s.elements.keys = [.plain "part"] ∧
      compileText mainAndPart.files (partText "") = .ok s := by
  obtain ⟨hfile, htext⟩ := compile_withoutSkipped mainAndPart
  have hread : mainAndPart.read (.ofString "/part.xsd") = .ok (Bytes.ofString (partText missingInclude)) := by
    decide +kernel
  have hvalue : missingNode.attribute? "schemaLocation" = some "missing.xsd" := rfl
  have hincluded : Skipped mainAndPart (Path.ofString "/part.xsd").parent? missingNode := by
    have hpath : Location.resolve? (Text.trim "missing.xsd") (Path.ofString "/part.xsd").parent? =
        some (.ofString "/missing.xsd") := by
      decide +kernel
    have hmissing : mainAndPart.canonicalize (.ofString "/missing.xsd") = .error .missing := by decide +kernel
    exact .missing (.inl rfl) hvalue hpath hmissing
  have hprimary : Skipped mainAndPart none missingNode := by
    have hpath : Location.resolve? (Text.trim "missing.xsd") none = some (.ofString "missing.xsd") := by decide +kernel
    have hmissing : mainAndPart.canonicalize (.ofString "missing.xsd") = .error .missing := by decide +kernel
    exact .missing (.inl rfl) hvalue hpath hmissing
  refine ⟨?_, ?_, ?_⟩
  · have hcomputed : (compiledWithin mainAndPart.files .standard (.ofString "main.xsd") 2).map (·.sources) =
        some [.ofString "/main.xsd", .ofString "/part.xsd"] := by
      decide +kernel
    obtain ⟨s, hs, hsources⟩ := exists_compileFile hcomputed
    exact ⟨s, hs, hsources, hfile _ _ s _ _ _ hread (sheds_partText hincluded) hs⟩
  · have hcomputed : (compiledTextWithin mainAndPart.files mainText 2).map (·.sources) =
        some [.ofString "/part.xsd"] := by
      decide +kernel
    obtain ⟨s, hs, hsources⟩ := exists_compileText hcomputed
    exact ⟨s, hs, hsources, (htext mainText s hs).2 _ _ _ hread (sheds_partText hincluded)⟩
  · have hcomputed : (compiledTextWithin mainAndPart.files (partText missingInclude) 1).map (·.elements.keys) =
        some [.plain "part"] := by
      decide +kernel
    obtain ⟨s, hs, hkeys⟩ := exists_compileText hcomputed
    exact ⟨s, hs, hkeys, (htext _ s hs).1 _ (sheds_partText hprimary)⟩

end Schema

end SchemaHints
