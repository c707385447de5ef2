/-
The two ways to start. A schema can be compiled from its file, or from the text of that file when the file stands
in the current directory. The two compilations visit the same documents, though the references of the primary document
lead there by different paths, and though only the first counts the primary document and knows its path.

They are followed side by side. A reference of the primary document has a twin in the text, which leads to the same
file, or which leads nowhere while the first leads to no file that can be read. From then on the same references are
pending on both sides. The compilation from the file may have met more paths, but none of these is read later on.
-/
import SchemaHints.Proofs.Files.WorkingDirectory
import SchemaHints.Proofs.Likeness.Reading
import SchemaHints.Proofs.Loading.Limits
import SchemaHints.Proofs.Loading.Skipped
import SchemaHints.Schema.Substitution

namespace SchemaHints.Schema

variable {fs : FileSystem} {limits : Limits} {main : Path}

/-! ## Visits that succeed -/

namespace Loading

variable {l : Loading} {p : Pending}

theorem result_visit_of_missing {reason : FileFault} (hp : fs.canonicalize p.path = .error reason) :
    (visit limits l p (fs.files p.path)).result = .ok l := by
  rw [FileSystem.files_of_error hp]
  rfl

theorem result_visit_of_visited {file : Path} (hp : fs.canonicalize p.path = .ok file) (hv : file ∈ l.visited) :
    (visit limits l p (fs.files p.path)).result = .ok l := by
  rw [FileSystem.files_of_ok hp, visit, if_pos hv]
  rfl

theorem result_visit_of_unreadable {file : Path} {reason : FileFault} (hp : fs.canonicalize p.path = .ok file)
    (hnew : file ∉ l.visited) (hroom : l.visited.length < limits.documents) (hread : fs.read file = .error reason) :
    (visit limits l p (fs.files p.path)).result = .ok { l with visited := file :: l.visited } := by
  have hcount : limits.checkDocuments (file :: l.visited).length = .ok () := Limits.checkDocuments_eq_ok.2 hroom
  rw [FileSystem.files_of_ok hp]
  simp only [visit, if_neg hnew, hread, Traced.result_bind, Traced.result_lift, hcount]
  rfl

theorem result_visit_of_read {src : Source} (hp : fs.canonicalize p.path = .ok src.path) (hnew : src.path ∉ l.visited)
    (hroom : l.visited.length < limits.documents) {content : Bytes} (hread : fs.read src.path = .ok content)
    (hsize : content.length ≤ limits.size) (hroot : Xml.rootOf limits content = .ok (some src.root))
    (hdocument : Document.read src.root p.path.text p.role = .ok src.document) (hrole : src.role = p.role) :
    (visit limits l p (fs.files p.path)).result =
      .ok ({ l with visited := src.path :: l.visited }.addSource src) := by
  have hcount : limits.checkDocuments (src.path :: l.visited).length = .ok () := Limits.checkDocuments_eq_ok.2 hroom
  have hfits : limits.checkSize content.length = .ok () := Limits.checkSize_eq_ok.2 hsize
  rw [← hrole] at hdocument
  rw [FileSystem.files_of_ok hp]
  simp only [visit, if_neg hnew, hread, addFound, add, Traced.result_bind, Traced.result_lift, Traced.result_line,
    Traced.result_lines, Traced.result_nested, Traced.result_pure, hcount, hfits, hroot, rootAt, Result.reportedAt,
    hdocument, Result.ok_bind, ← hrole]
  rfl

/-- Visits add to the sources. -/
theorem sources_subset_of_after {n : Nat} {final : Loading} (hn : after fs.files limits n l = .ok final) :
    l.schema.sources ⊆ final.schema.sources := by
  refine after_induction (P := fun l' => l.schema.sources ⊆ l'.schema.sources) ?_ (List.Subset.refl _) hn
  intro l' p rest m hl' _ hm
  cases visit_of_result hm with
  | missing _ | again _ _ | unreadable _ _ _ => exact hl'
  | read src _ _ _ _ _ => exact List.Subset.trans hl' (List.subset_append_left _ _)

end Loading

/-! ## Twins -/

/-- A pending document and another that comes to the same: both are in one file, which is not `main`, or the other is
nowhere and the first in no file that can be read. -/
inductive Twin (fs : FileSystem) (main : Path) (p q : Pending) : Prop
  | same {file : Path} : q.role = p.role → fs.canonicalize p.path = .ok file → fs.canonicalize q.path = .ok file →
    file ≠ main → Twin fs main p q
  | nowhere {reason : FileFault} : fs.canonicalize q.path = .error reason →
    (∀ file, fs.canonicalize p.path = .ok file → ∃ reason, fs.read file = .error reason) → Twin fs main p q

theorem Twin.refl {p : Pending} (hp : fs.canonicalize p.path ≠ .ok main) : Twin fs main p p := by
  rcases hfile : fs.canonicalize p.path with reason | file
  · refine .nowhere hfile fun file hfile' => ?_
    rw [hfile] at hfile'
    cases hfile'
  · exact .same rfl hfile hfile fun heq => hp (heq ▸ hfile)

/-- A location is remote in any case, or an address or relative path; only the last depends on the directory. -/
theorem resolve?_cases (location : String) (directory : Path) :
    (Location.resolve? location (some directory) = none ∧ Location.resolve? location none = none) ∨
    ∃ path path', Location.resolve? location (some directory) = some path ∧
      Location.resolve? location none = some path' ∧ (path = path' ∨ path = directory.join path') := by
  unfold Location.resolve?
  dsimp only
  generalize Location.target? (Text.trim location) = found
  generalize Text.trim location = path
  cases found with
  | none => exact .inr ⟨_, _, rfl, rfl, .inr rfl⟩
  | some target =>
    cases target with
    | path path => exact .inr ⟨_, _, rfl, rfl, .inl rfl⟩
    | remote => exact .inl ⟨rfl, rfl⟩

/-- A path below the current directory has a twin that starts there. -/
theorem twin_join {directory path : Path} (h : fs.WorksIn directory) (role : Role)
    (hmain : fs.canonicalize (directory.join path) ≠ .ok main) :
    Twin fs main ⟨directory.join path, role⟩ ⟨path, role⟩ := by
  by_cases hempty : path.bytes = []
  · obtain rfl : path = ⟨[]⟩ := congrArg Path.mk hempty
    obtain ⟨reason, hreason⟩ := h.empty
    exact .nowhere hreason h.unreadable
  · have hjoin := h.join path hempty
    rcases hfile : fs.canonicalize path with reason | file
    · refine .nowhere hfile fun file hfile' => ?_
      rw [hjoin, hfile] at hfile'
      cases hfile'
    · exact .same rfl (hjoin.trans hfile) hfile fun heq => hmain (heq ▸ hjoin.trans hfile)

/-- A reference leads from a text to the twin of where it leads from the current directory. -/
theorem twin_pending? {directory : Path} (h : fs.WorksIn directory) (r : Reference) (target : String)
    (hmain : ∀ p, r.pending? (some directory) target = some p → fs.canonicalize p.path ≠ .ok main) :
    Option.Rel (Twin fs main) (r.pending? (some directory) target) (r.pending? none target) := by
  have hpending (base : Option Path) {location : String} (hlocation : r.location = some location) :
      r.pending? base target = (Location.resolve? location base).map fun path => ⟨path, r.role target⟩ := by
    simp only [Reference.pending?, hlocation, Option.bind_eq_bind, Option.bind_some]
    cases Location.resolve? location base <;> rfl
  cases hlocation : r.location with
  | none =>
    rw [Reference.pending?, Reference.pending?, hlocation]
    exact .none
  | some location =>
    rw [hpending _ hlocation] at hmain ⊢
    rw [hpending _ hlocation]
    rcases resolve?_cases location directory with ⟨hpath, hpath'⟩ | ⟨path, path', hpath, hpath', hjoin⟩
    · rw [hpath, hpath']
      exact .none
    · rw [hpath] at hmain ⊢
      rw [hpath']
      have hne : fs.canonicalize path ≠ .ok main := hmain ⟨path, r.role target⟩ rfl
      rcases hjoin with rfl | rfl
      · exact .some (.refl hne)
      · exact .some (twin_join h _ hne)

/-- The references of a text lead to the twins of where they lead from the current directory. -/
theorem twins_pending {directory : Path} (h : fs.WorksIn directory) (d : Document)
    (hmain : ∀ p ∈ d.pending (some directory), fs.canonicalize p.path ≠ .ok main) :
    List.Forall₂ (Twin fs main) (d.pending (some directory)) (d.pending none) := by
  unfold Document.pending at hmain ⊢
  generalize d.references = rs at hmain ⊢
  induction rs with
  | nil => exact .nil
  | cons r rs ih =>
    have hr := twin_pending? h r d.target fun p hp => hmain p (List.mem_filterMap.2 ⟨r, List.mem_cons_self .., hp⟩)
    have hrs := ih fun p hp => by
      obtain ⟨r', hr', hp⟩ := List.mem_filterMap.1 hp
      exact hmain p (List.mem_filterMap.2 ⟨r', List.mem_cons_of_mem _ hr', hp⟩)
    rw [List.filterMap_cons, List.filterMap_cons]
    revert hr
    generalize r.pending? (some directory) d.target = p
    generalize r.pending? none d.target = q
    intro hr
    cases hr with
    | none => exact hrs
    | some hr => exact .cons hr hrs

theorem twins_refl {ps : List Pending} (h : ∀ p ∈ ps, fs.canonicalize p.path ≠ .ok main) :
    List.Forall₂ (Twin fs main) ps ps := List.forall₂_same.2 fun p hp => .refl (h p hp)

/-! ## Side by side -/

/-- Two compilations between two visits, of the file `main` and of its text: they have the same schema apart from the
file itself among the sources, and twins are pending. The one from the text has met fewer paths; what it has not
met is `main`, or cannot be read. -/
structure Beside (fs : FileSystem) (limits : Limits) (main : Path) (l l' : Loading) : Prop where
  schema : l.schema = { l'.schema with sources := main :: l'.schema.sources }
  apart : main ∉ l'.schema.sources
  nodup : l'.visited.Nodup
  met : l'.visited ⊆ l.visited
  unmet : ∀ file ∈ l.visited, file ∉ l'.visited → file ≠ main → ∃ reason, fs.read file = .error reason
  room : l.visited.length ≤ limits.documents
  pending : List.Forall₂ (Twin fs main) l.pending l'.pending

namespace Beside

variable {l l' m : Loading} {p q : Pending} {ps qs : List Pending}

/-- A path that the compilation from the file has met, and that from the text has not, is within the limit there. -/
theorem length_lt (h : Beside fs limits main l l') {file : Path} (hnew : file ∉ l'.visited) {visited : List Path}
    (hmet : l.visited ⊆ visited) (hfile : file ∈ visited) (hroom : visited.length ≤ limits.documents) :
    l'.visited.length < limits.documents := by
  have hnodup : (file :: l'.visited).Nodup := List.nodup_cons.2 ⟨hnew, h.nodup⟩
  have hsubset : file :: l'.visited ⊆ visited := List.cons_subset.2 ⟨hfile, List.Subset.trans h.met hmet⟩
  exact (hnodup.subperm hsubset).length_le.trans hroom

/-- A path that is new to both is met by both. -/
theorem meet (h : Beside fs limits main l l') {file : Path} (hnew : file ∉ l'.visited)
    (hroom : (file :: l.visited).length ≤ limits.documents) :
    Beside fs limits main { l with visited := file :: l.visited } { l' with visited := file :: l'.visited } := by
  refine ⟨h.schema, h.apart, List.nodup_cons.2 ⟨hnew, h.nodup⟩, List.cons_subset_cons _ h.met, ?_, hroom, h.pending⟩
  intro other hmet hunmet hne
  obtain ⟨hother, hunmet⟩ := not_or.1 (mt List.mem_cons.2 hunmet)
  exact h.unmet other ((List.mem_cons.1 hmet).resolve_left hother) hunmet hne

/-- A document other than `main`, which does not refer to `main`, is added to both. -/
theorem addSource (h : Beside fs limits main l l') {src : Source} (hne : src.path ≠ main)
    (hreferences : ∀ p ∈ src.references, fs.canonicalize p.path ≠ .ok main) :
    Beside fs limits main (l.addSource src) (l'.addSource src) := by
  refine ⟨?_, ?_, h.nodup, h.met, h.unmet, h.room, List.rel_append h.pending (twins_refl hreferences)⟩
  · show l.schema.addSource src = _
    rw [h.schema]
    rfl
  · intro hmem
    rcases List.mem_append.1 hmem with hmem | hmem
    · exact h.apart hmem
    · exact hne (List.mem_singleton.1 hmem).symm

/-- A visit of the one compilation is one of the other, unless it has no twin that leads anywhere. -/
theorem visit (h : Beside fs limits main l l') (hpq : Twin fs main p q)
    (hm : (Loading.visit limits l p (fs.files p.path)).result = .ok m)
    (hmain : ∀ file ∈ m.schema.sources, main ∉ leadsTo fs limits file) :
    ∃ m', (Loading.visit limits l' q (fs.files q.path)).result = .ok m' ∧ Beside fs limits main m m' := by
  have hvisit := Loading.visit_of_result hm
  cases hpq with
  | nowhere hq hp =>
    refine ⟨l', Loading.result_visit_of_missing hq, ?_⟩
    cases hvisit with
    | missing _ => exact h
    | again _ _ => exact h
    | @unreadable file reason hfile hnew hread =>
      have hroom : (file :: l.visited).length ≤ limits.documents := Loading.length_lt_of_visit hfile hnew hm
      refine ⟨h.schema, h.apart, h.nodup, List.Subset.trans h.met (List.subset_cons_self ..), ?_, hroom, h.pending⟩
      intro other hmet hunmet hne
      rcases List.mem_cons.1 hmet with rfl | hmet
      · exact ⟨reason, hread⟩
      · exact h.unmet other hmet hunmet hne
    | read src hfile _ _ _ hread =>
      obtain ⟨content, hcontent, -⟩ := hread.root
      obtain ⟨reason, hreason⟩ := hp _ hfile
      rw [hcontent] at hreason
      cases hreason
  | @same file hrole hp hq hne =>
    cases hvisit with
    | missing hmissing =>
      rw [hp] at hmissing
      cases hmissing
    | again hagain hvisited =>
      rw [hp] at hagain
      cases hagain
      by_cases hv : file ∈ l'.visited
      · exact ⟨l', Loading.result_visit_of_visited hq hv, h⟩
      -- the file has been met by another path, which leads nowhere in the text; it cannot be read here either
      · obtain ⟨reason, hread⟩ := h.unmet file hvisited hv hne
        have hroom := h.length_lt hv (List.Subset.refl _) hvisited h.room
        refine ⟨_, Loading.result_visit_of_unreadable hq hv hroom hread, h.schema, h.apart,
          List.nodup_cons.2 ⟨hv, h.nodup⟩, List.cons_subset.2 ⟨hvisited, h.met⟩, ?_, h.room, h.pending⟩
        exact fun other hmet hunmet => h.unmet other hmet fun hmem => hunmet (List.mem_cons_of_mem _ hmem)
    | @unreadable file' reason hfile hnew hread =>
      rw [hp] at hfile
      cases hfile
      have hv : file ∉ l'.visited := fun hmem => hnew (h.met hmem)
      have hroom : (file :: l.visited).length ≤ limits.documents := Loading.length_lt_of_visit hp hnew hm
      have hroom' := h.length_lt hv (List.subset_cons_self ..) (List.mem_cons_self ..) hroom
      exact ⟨_, Loading.result_visit_of_unreadable hq hv hroom' hread, h.meet hv hroom⟩
    | read src hfile hnew hlocation hsrc hread =>
      rw [hp] at hfile
      cases hfile
      have hv : src.path ∉ l'.visited := fun hmem => hnew (h.met hmem)
      have hroom : (src.path :: l.visited).length ≤ limits.documents := Loading.length_lt_of_visit hp hnew hm
      have hroom' := h.length_lt hv (List.subset_cons_self ..) (List.mem_cons_self ..) hroom
      obtain ⟨content, hcontent, hroot⟩ := hread.root
      have hsize := Loading.size_le_of_visit hp hnew hm hcontent
      have hdocument : Document.read src.root q.path.text q.role = .ok src.document := by
        rw [hrole, ← hsrc]
        exact read_elsewhere hread.document _
      have hreferences : ∀ p ∈ src.references, fs.canonicalize p.path ≠ .ok main := by
        intro p hp hfile
        have hsource : src.path ∈ (l.schema.addSource src).sources :=
          List.mem_append_right _ (List.mem_singleton_self _)
        exact hmain _ hsource (hread.mem_leadsTo_iff.2 ⟨p, hp, hfile⟩)
      have hresult := Loading.result_visit_of_read hq hv hroom' hcontent hsize hroot hdocument (hsrc.trans hrole.symm)
      exact ⟨_, hresult, (h.meet hv hroom).addSource hne hreferences⟩

/-- The visits of the one compilation are as many of the other. -/
theorem run {n : Nat} {final : Loading} (h : Beside fs limits main l l')
    (hn : Loading.after fs.files limits n l = .ok final)
    (hmain : ∀ file ∈ final.schema.sources, main ∉ leadsTo fs limits file) :
    ∃ final', Loading.after fs.files limits n l' = .ok final' ∧ Beside fs limits main final final' := by
  induction n generalizing l l' with
  | zero =>
    cases hn
    exact ⟨l', rfl, h⟩
  | succ n ih =>
    have hpending := h.pending
    rcases hl : l.pending with _ | ⟨p, rest⟩
    · rw [Loading.after_of_nil hl] at hn
      cases hn
      rw [hl, List.forall₂_nil_left_iff] at hpending
      exact ⟨l', Loading.after_of_nil hpending _, h⟩
    · rw [Loading.after_of_cons hl] at hn
      obtain ⟨m, hm, hn⟩ := Result.bind_eq_ok.1 hn
      rw [hl] at hpending
      obtain ⟨q, rest', hpq, hrest, hl'⟩ := List.forall₂_cons_left_iff.1 hpending
      have hnext : Beside fs limits main { l with pending := rest } { l' with pending := rest' } :=
        ⟨h.schema, h.apart, h.nodup, h.met, h.unmet, h.room, hrest⟩
      have hsources : ∀ file ∈ m.schema.sources, main ∉ leadsTo fs limits file :=
        fun file hfile => hmain file (Loading.sources_subset_of_after hn hfile)
      obtain ⟨m', hm', hbeside⟩ := hnext.visit hpq hm hsources
      obtain ⟨final', hfinal', hbeside⟩ := ih hbeside hn
      refine ⟨final', ?_, hbeside⟩
      rw [Loading.after_of_cons hl']
      exact Result.bind_eq_ok.2 ⟨m', hm', hfinal'⟩

end Beside

/-- A text begins like its file, but for the places that its references lead to. -/
theorem exists_beside {src : Source} {directory : Path} (h : fs.WorksIn directory)
    (hdirectory : src.path.parent? = some directory) (hread : src.IsRead fs limits) (hrole : src.role = .primary)
    (hmain : src.path ∉ leadsTo fs limits src.path) (hroom : 1 ≤ limits.documents) :
    ∃ l', (Loading.start.add src.root "<string>" none .primary).result = .ok l' ∧
      Beside fs limits src.path { Loading.start.addSource src with visited := [src.path] } l' := by
  have hdocument : Document.read src.root "<string>" .primary = .ok src.document := by
    rw [← hrole]
    exact read_elsewhere hread.document _
  have hreferences : ∀ p ∈ src.document.pending (some directory), fs.canonicalize p.path ≠ .ok src.path := by
    intro p hp hfile
    refine hmain (hread.mem_leadsTo_iff.2 ⟨p, ?_, hfile⟩)
    rw [Source.references, hdirectory]
    exact hp
  simp only [Loading.add, Traced.result_bind, Traced.result_lift, Traced.result_line, Traced.result_nested,
    Traced.result_lines, Traced.result_pure, hdocument, Result.ok_bind]
  refine ⟨_, rfl, ?_⟩
  constructor
  case schema =>
    show Schema.empty.addSource src = _
    unfold Schema.addSource
    rw [if_pos hrole]
    rfl
  case apart => exact List.not_mem_nil
  case nodup => exact List.nodup_nil
  case met => exact List.nil_subset _
  case unmet =>
    intro file hfile _ hne
    exact absurd (List.mem_singleton.1 hfile) hne
  case room => exact hroom
  case pending =>
    show List.Forall₂ _ ([] ++ src.document.pending src.path.parent?) ([] ++ src.document.pending none)
    rw [hdirectory]
    exact twins_pending h src.document hreferences

theorem result_complete {s : Schema} (h : s.elements.size ≤ limits.elements) :
    (complete limits s).result = .ok (s.addAttributes s.suppliedAttributes) := by
  have hcount : limits.checkElements s.elements.size = .ok () := Limits.checkElements_eq_ok.2 h
  simp only [complete, Traced.result_bind, Traced.result_lift, Traced.result_lines, Traced.result_pure, hcount]
  rfl

/-! ## The same schema -/

/-- The two ways to start agree. A file tree works in its current directory. And in a file system that works in a
directory, a file of this directory whose schema can be compiled, and which none of the documents read refers to, can
as well be compiled from its text: with the same target namespace and the same tables, element by element, and with
the same sources but for the file itself. -/
theorem compileText_of_compileFile :
    (∀ t : FileTree, (∀ component ∈ t.current, FileTree.IsName component) → t.fileSystem.WorksIn t.directory) ∧
    ∀ (fs : FileSystem) (directory path main : Path) (text : String) (s : Schema),
      fs.WorksIn directory → fs.canonicalize path = .ok main → main.parent? = some directory →
      fs.read main = .ok (Bytes.ofString text) → (compileFile fs.files .standard path).result = .ok s →
      (∀ file ∈ s.sources, main ∉ leadsTo fs .standard file) →
      ∃ s', compileText fs.files text = .ok s' ∧ s'.target = s.target ∧ s'.elements = s.elements ∧
        s'.types = s.types ∧ s'.groups = s.groups ∧ s'.attributeGroups = s.attributeGroups ∧
        s'.attributes = s.attributes ∧ s'.directMembers = s.directMembers ∧ s.sources = main :: s'.sources ∧
        main ∉ s'.sources := by
  refine ⟨fun t ht => (FileTree.stands_of_isName ht).worksIn, ?_⟩
  intro fs directory path main text s hworks hcanonical hparent hcontent hs hmain
  obtain ⟨start, n, final, hbegin, hn, hpending, hfinish⟩ := compileFile_eq_ok hs
  obtain ⟨src, hc, -, hrole, hread, rfl⟩ := Loading.begin_eq_ok hbegin
  obtain rfl : src.path = main := by
    rw [hcanonical] at hc
    exact (Except.ok.inj hc).symm
  have hsources : s.sources = final.schema.sources := by
    rw [finish_eq_ok hfinish]
    rfl
  rw [hsources] at hmain
  have hself : src.path ∈ final.schema.sources := Loading.sources_subset_of_after hn (List.mem_singleton_self _)
  obtain ⟨l', hadd, hbeside⟩ := exists_beside hworks hparent hread hrole (hmain _ hself) (by decide)
  obtain ⟨final', hn', hfinal⟩ := hbeside.run hn hmain
  have hpending' : final'.pending = [] := by
    have hpairs := hfinal.pending
    rw [hpending, List.forall₂_nil_left_iff] at hpairs
    exact hpairs
  have hn' : Loading.after fs.files .standard n l' = .ok final' := hn'
  have hsize : final'.schema.elements.size ≤ Limits.standard.elements := by
    have hsize := size_le_of_finish hfinish
    rw [hfinal.schema] at hsize
    exact hsize
  have hroot : Xml.rootOf .standard (Bytes.ofString text) = .ok (some src.root) := by
    obtain ⟨content, hread, hroot⟩ := hread.root
    rw [hcontent] at hread
    cases hread
    exact hroot
  refine ⟨final'.schema.addAttributes final'.schema.suppliedAttributes, ?_, ?_⟩
  · exact compileText_of_after hroot hadd hn' hpending' (result_complete hsize)
  · rw [finish_eq_ok hfinish, hfinal.schema]
    exact ⟨rfl, rfl, rfl, rfl, rfl, rfl, rfl, rfl, hfinal.apart⟩

/-- A document that includes a part by a relative path, by an empty one, by an absolute one and by an address. -/
def wholeText : String :=
  schemaText ("<xs:include " ++ "schemaLocation=" ++ "'part.xsd'/>" ++ "<xs:include " ++ "schemaLocation=" ++ "''/>" ++
    "<xs:include " ++ "schemaLocation=" ++ "'/w/part.xsd'/>" ++ "<xs:include " ++ "schemaLocation=" ++
    "'file:///w/" ++ "part.xsd'/>" ++ "<xs:element " ++ "name='whole' " ++ "substitutionGroup=" ++ "'part'/>")

/-- This document and its part in the current directory. -/
def wholeAndPart : FileTree where
  files := [([Bytes.ofString "w", Bytes.ofString "main.xsd"], Bytes.ofString wholeText),
    ([Bytes.ofString "w", Bytes.ofString "part.xsd"], Bytes.ofString (partText ""))]
  directories := []
  current := [Bytes.ofString "w"]

theorem compileText_of_compileFile_whole : ∃ s s',
    (compileFile wholeAndPart.fileSystem.files .standard (.ofString "main.xsd")).result = .ok s ∧
      s.sources = [.ofString "/w/main.xsd", .ofString "/w/part.xsd"] ∧
      compileText wholeAndPart.fileSystem.files wholeText = .ok s' ∧
      s'.elements.keys = [.plain "whole", .plain "part"] ∧ s'.elements = s.elements ∧
      s'.directMembers (.plain "part") = [.plain "whole"] ∧ s'.sources = [.ofString "/w/part.xsd"] := by
  obtain ⟨htree, hcompile⟩ := compileText_of_compileFile
  have hnames : ∀ component ∈ wholeAndPart.current, FileTree.IsName component := by
    intro component hcomponent
    have hname : component = [0x77] := (List.mem_singleton.1 hcomponent).trans (by decide +kernel)
    rw [hname]
    exact ⟨by decide, by decide, by decide, by decide, by decide, by decide⟩
  have hcomputed : (compiledWithin wholeAndPart.fileSystem.files .standard (.ofString "main.xsd") 4).map
      (fun s => (s.sources, s.elements.keys, s.directMembers (.plain "part"))) =
        some ([.ofString "/w/main.xsd", .ofString "/w/part.xsd"], [.plain "whole", .plain "part"], [.plain "whole"]) := by
    decide +kernel
  obtain ⟨s, hs, hvalues⟩ := exists_compileFile hcomputed
  obtain ⟨hsources, hvalues⟩ := Prod.mk.inj hvalues
  obtain ⟨hkeys, hmembers⟩ := Prod.mk.inj hvalues
  have hcanonical : wholeAndPart.fileSystem.canonicalize (.ofString "main.xsd") = .ok (.ofString "/w/main.xsd") := by
    decide +kernel
  have hparent : (Path.ofString "/w/main.xsd").parent? = some wholeAndPart.directory := by decide +kernel
  have hread : wholeAndPart.fileSystem.read (.ofString "/w/main.xsd") = .ok (Bytes.ofString wholeText) := by
    decide +kernel
  have hmain : ∀ file ∈ s.sources, Path.ofString "/w/main.xsd" ∉ leadsTo wholeAndPart.fileSystem .standard file := by
    rw [hsources]
    decide +kernel
  obtain ⟨s', hs', -, helements, -, -, -, -, hdirect, hothers, -⟩ :=
    hcompile _ _ _ _ wholeText s (htree wholeAndPart hnames) hcanonical hparent hread hs hmain
  refine ⟨s, s', hs, hsources, hs', helements ▸ hkeys, helements, hdirect ▸ hmembers, ?_⟩
  rw [hsources] at hothers
  exact (List.cons.inj hothers).2.symm

end SchemaHints.Schema
