/-
Loading documents that are alike. Two file systems have the same paths, and in some files documents with alike roots.
A compilation goes the same way in both: the same documents are pending after each visit, the same paths have been
visited, and the schemas are alike. Or it comes to a fault in both, and the faults are of one kind.

Only the documents count that a compilation comes to. So the two are followed together with a property of files that
is handed on by references, and that says which namespaces a document may declare.
-/
import SchemaHints.Proofs.Likeness.Reading
import SchemaHints.Proofs.Likeness.Tables
import SchemaHints.Proofs.Loading.Skipped

namespace SchemaHints

open Result
open Xml (Element)

/-! ## Rewritten files -/

/-- The same content, or two documents with related roots. -/
inductive Rewritten (R : Element → Element → Prop) (limits : Limits) : Bytes → Bytes → Prop
  | same {content : Bytes} : Rewritten R limits content content
  | document {content content' : Bytes} {root root' : Element} : Xml.rootOf limits content = .ok (some root) →
    Xml.rootOf limits content' = .ok (some root') → R root root' → Rewritten R limits content content'

/-- What is read of a file that may be rewritten, within the limit on sizes as before or above it as before. -/
inductive ReadRewritten (R : Element → Element → Prop) (limits : Limits) :
    Except FileFault Bytes → Except FileFault Bytes → Prop
  | unreadable {reason : FileFault} : ReadRewritten R limits (.error reason) (.error reason)
  | read {content content' : Bytes} : (limits.size < content'.length ↔ limits.size < content.length) →
    Rewritten R limits content content' → ReadRewritten R limits (.ok content) (.ok content')

/-- The same paths, with documents in some of the files that have related roots. -/
structure FileSystem.RewrittenBy (R : Element → Element → Prop) (limits : Limits) (fs fs' : FileSystem) : Prop where
  canonicalize : fs'.canonicalize = fs.canonicalize
  read : ∀ file, ReadRewritten R limits (fs.read file) (fs'.read file)

variable {L : Likeness} {limits : Limits} {fs fs' : FileSystem}

section

variable {R Q : Element → Element → Prop} (hRQ : ∀ root root', R root root' → Q root root')

include hRQ

theorem Rewritten.mono {content content' : Bytes} (h : Rewritten R limits content content') :
    Rewritten Q limits content content' := by
  cases h with
  | same => exact .same
  | document hroot hroot' hR => exact .document hroot hroot' (hRQ _ _ hR)

theorem ReadRewritten.mono {c c' : Except FileFault Bytes} (h : ReadRewritten R limits c c') :
    ReadRewritten Q limits c c' := by
  cases h with
  | unreadable => exact .unreadable
  | read hsize hread => exact .read hsize (hread.mono hRQ)

theorem FileSystem.RewrittenBy.mono (h : FileSystem.RewrittenBy R limits fs fs') :
    FileSystem.RewrittenBy Q limits fs fs' :=
  ⟨h.canonicalize, fun file => (h.read file).mono hRQ⟩

end

theorem readRewritten_refl {R : Element → Element → Prop} (c : Except FileFault Bytes) : ReadRewritten R limits c c := by
  cases c with
  | error reason => exact .unreadable
  | ok content => exact .read Iff.rfl .same

theorem FileSystem.rewrittenBy_refl {R : Element → Element → Prop} (fs : FileSystem) :
    FileSystem.RewrittenBy R limits fs fs := ⟨rfl, fun _ => readRewritten_refl _⟩

/-- Another content of one file rewrites this file only. -/
theorem FileSystem.rewrittenBy_withContent {R : Element → Element → Prop} {file : Path} {content content' : Bytes}
    (hread : fs.read file = .ok content) (hsize : limits.size < content'.length ↔ limits.size < content.length)
    (h : Rewritten R limits content content') : FileSystem.RewrittenBy R limits fs (fs.withContent file content') := by
  refine ⟨rfl, fun path => ?_⟩
  unfold FileSystem.withContent
  simp only
  split
  · rename_i hpath
    rw [hpath, hread]
    exact .read hsize h
  · exact readRewritten_refl _

/-- Roots that are alike and that are both schema elements or neither. -/
structure Xml.RootAlike (L : Likeness) (root root' : Element) : Prop where
  alike : root.Alike L root'
  version : isSchemaNamespace root'.name.space = isSchemaNamespace root.name.space

theorem Xml.RootAlike.refl (L : Likeness) (root : Element) : Xml.RootAlike L root root :=
  ⟨Element.alike_refl L root, rfl⟩

/-! ## Schemas and documents -/

namespace Schema

namespace Document.AlikeBy

variable {d d' : Document} (h : d.AlikeBy L d')

include h

theorem elements : List.Forall₂ (ElementDecl.Alike L) d.elements d'.elements := by
  refine List.rel_filterMap (fun item item' hitem => ?_) h.items
  cases hitem with
  | element he => exact .some he
  | _ => exact .none

theorem types : List.Forall₂ (Keyed.EntryAlike L (TypeDef.Alike L)) d.types d'.types := by
  refine List.rel_filterMap (fun item item' hitem => ?_) h.items
  cases hitem with
  | type hn ht => exact .some ⟨⟨rfl, hn⟩, ht⟩
  | _ => exact .none

theorem groups : List.Forall₂ (Keyed.EntryAlike L (Particle.Alike L)) d.groups d'.groups := by
  refine List.rel_filterMap (fun item item' hitem => ?_) h.items
  cases hitem with
  | group hn hp => exact .some ⟨⟨rfl, hn⟩, hp⟩
  | _ => exact .none

theorem attributeGroups :
    List.Forall₂ (Keyed.EntryAlike L (List.Forall₂ (AttributeItem.Alike L))) d.attributeGroups d'.attributeGroups := by
  refine List.rel_filterMap (fun item item' hitem => ?_) h.items
  cases hitem with
  | attributes hn hitems => exact .some ⟨⟨rfl, hn⟩, hitems⟩
  | _ => exact .none

theorem attributes : List.Forall₂ (AttributeDecl.Alike L) d.attributes d'.attributes := by
  refine List.rel_filterMap (fun item item' hitem => ?_) h.items
  cases hitem with
  | globalAttribute ha => exact .some ha
  | _ => exact .none

/-- The references are the same. -/
theorem references : d'.references = d.references := by
  refine List.forall₂_eq_eq_eq ▸ (List.rel_filterMap (fun item item' hitem => ?_) h.items).flip.imp fun _ _ => id
  cases hitem with
  | reference => exact .some rfl
  | _ => exact .none

/-- What is included has the namespace of the document, of which everything can be declared. -/
theorem declares_of_pending? {base : Option Path} {r : Reference} {p : Pending} (hp : r.pending? base d.target = some p)
    {target : String} (htarget : p.role = .included target) (n : String) : L.declares ⟨target, n⟩ := by
  obtain ⟨location, -, hp⟩ := Option.bind_eq_some_iff.1 hp
  obtain ⟨path, -, hp⟩ := Option.bind_eq_some_iff.1 hp
  cases hp
  have hrole : r.role d.target = .included target := htarget
  unfold Reference.role at hrole
  split at hrole
  · cases hrole
  · cases hrole
    exact h.declares n
  · cases hrole
    exact h.declares n

theorem pending (base : Option Path) : d'.pending base = d.pending base := by
  unfold Document.pending
  rw [h.references, h.target]

end Document.AlikeBy

namespace AlikeBy

theorem empty : Schema.empty.AlikeBy L .empty := ⟨.nil, .nil, .nil, .nil, .nil, rfl⟩

variable {s s' : Schema} (h : s.AlikeBy L s')

include h

/-- The files are not compared. -/
theorem withSources (files files' : List Path) :
    ({ s with sources := files } : Schema).AlikeBy L { s' with sources := files' } :=
  ⟨h.elements, h.types, h.groups, h.attributeGroups, h.attributes, h.importsXml⟩

theorem addAttributes {as as' : List AttributeDecl} (has : List.Forall₂ (AttributeDecl.Alike L) as as') :
    (s.addAttributes as).AlikeBy L (s'.addAttributes as') where
  elements := h.elements
  types := h.types
  groups := h.groups
  attributeGroups := h.attributeGroups
  attributes := h.attributes.insertAllNew (List.rel_map (fun _ _ ha => ⟨ha.name, ha⟩) has)
  importsXml := h.importsXml

theorem merge {d d' : Document} (hd : d.AlikeBy L d') : (s.merge d).AlikeBy L (s'.merge d') where
  elements := h.elements.insertAllNew (List.rel_map (fun _ _ he => ⟨he.name, he⟩) hd.elements)
  types := h.types.insertAllNew hd.types
  groups := h.groups.insertAllNew hd.groups
  attributeGroups := h.attributeGroups.insertAllNew hd.attributeGroups
  attributes := (h.addAttributes hd.attributes).attributes
  importsXml := h.importsXml

end AlikeBy

/-! ## Roots -/

/-- Roots that are alike, and of whose declared namespace everything can be declared. -/
structure Declare (L : Likeness) (root root' : Element) : Prop where
  alike : Xml.RootAlike L root root'
  declares : ∀ n, L.declares ⟨declaredTarget root, n⟩

/-- Contents with such roots, or that both have none, or cannot be read. -/
def RootsAgree (L : Likeness) (limits : Limits) (content content' : Bytes) : Prop :=
  Agree (Option.Rel (Declare L)) (Xml.rootOf limits content) (Xml.rootOf limits content')

/-- The roots agree of a content and its rewriting. -/
theorem rootsAgree_of_rewritten {content content' : Bytes} (h : Rewritten (Xml.RootAlike L) limits content content')
    (hroots : ∀ root, Xml.rootOf limits content = .ok (some root) → ∀ n, L.declares ⟨declaredTarget root, n⟩) :
    RootsAgree L limits content content' := by
  unfold RootsAgree
  cases h with
  | same =>
    rcases hroot : Xml.rootOf limits content with reason | _ | root
    · exact .error rfl
    · exact .ok .none
    · exact .ok (.some ⟨.refl L root, hroots root hroot⟩)
  | document hroot hroot' halike =>
    rw [hroot, hroot']
    exact .ok (.some ⟨halike, hroots _ hroot⟩)

theorem agree_rootAt {R : Element → Element → Prop} (location : String) {found found' : Option Element}
    (h : Option.Rel R found found') : Agree R (rootAt location found) (rootAt location found') := by
  cases h with
  | none => exact agree_failAt rfl
  | some h => exact .ok h

theorem agree_checkSize {n n' : Nat} (h : limits.size < n' ↔ limits.size < n) :
    Agree Eq (limits.checkSize n) (limits.checkSize n') := by
  unfold Limits.checkSize
  simp only [h]
  split
  · exact agree_fail rfl
  · exact .ok rfl

/-! ## Visits -/

/-- Compilations between two visits that have the same before them, with alike schemas so far. An including document
pending has a namespace of which everything can be declared. -/
structure Loading.AlikeBy (L : Likeness) (l l' : Loading) : Prop where
  schema : l.schema.AlikeBy L l'.schema
  visited : l'.visited = l.visited
  pending : l'.pending = l.pending
  roles : ∀ p ∈ l.pending, ∀ target, p.role = .included target → ∀ n, L.declares ⟨target, n⟩

namespace Loading.AlikeBy

theorem start : Loading.start.AlikeBy L .start := ⟨.empty, rfl, rfl, List.forall_mem_nil _⟩

variable {l l' : Loading} {role : Role} (h : l.AlikeBy L l')
  (hrole : ∀ target, role = .included target → ∀ n, L.declares ⟨target, n⟩)

include h hrole

theorem add {root root' : Element} (hroot : Declare L root root') (location : String) (base : Option Path) :
    Agree (AlikeBy L) (l.add root location base role).result (l'.add root' location base role).result := by
  simp only [Loading.add, Traced.result_bind, Traced.result_lift, Traced.result_line, Traced.result_nested,
    Traced.result_lines, Traced.result_pure, Result.ok_bind]
  refine (Document.read_alike hroot.alike.alike hroot.alike.version location location hroot.declares hrole).bind
    fun d d' hd => .ok ?_
  have hmerged := h.schema.merge hd
  constructor
  case schema =>
    refine ⟨hmerged.elements, hmerged.types, hmerged.groups, hmerged.attributeGroups, hmerged.attributes, ?_⟩
    show (l'.schema.importsXml || _) = (l.schema.importsXml || _)
    rw [h.schema.importsXml, hd.references]
  case visited => exact h.visited
  case pending =>
    show l'.pending ++ d'.pending base = l.pending ++ d.pending base
    rw [h.pending, hd.pending]
  case roles =>
    refine List.forall_mem_append.2 ⟨h.roles, fun p hp target htarget => ?_⟩
    obtain ⟨r, -, hp⟩ := List.mem_filterMap.1 hp
    exact hd.declares_of_pending? hp htarget

/-- The document that was found is added, if its root can be read. -/
theorem addFound {content content' : Bytes} (hroots : RootsAgree L limits content content') (location : String)
    (path : Path) :
    Agree (AlikeBy L) (l.addFound limits location role content path).result
      (l'.addFound limits location role content' path).result := by
  simp only [Loading.addFound, Traced.result_bind, Traced.result_lift, Traced.result_pure]
  refine (hroots.reportedAt location location).bind fun found found' hfound => ?_
  refine (agree_rootAt location hfound).bind fun root root' hroot => ?_
  refine (h.add hrole hroot location path.parent?).bind fun m m' hm => .ok ?_
  exact ⟨hm.schema.withSources _ _, hm.visited, hm.pending, hm.roles⟩

end Loading.AlikeBy

/-- A visit of a path does the same in both file systems. -/
theorem Loading.AlikeBy.visit {l l' : Loading} (h : l.AlikeBy L l')
    (hfs : FileSystem.RewrittenBy (Xml.RootAlike L) limits fs fs') {p : Pending}
    (hrole : ∀ target, p.role = .included target → ∀ n, L.declares ⟨target, n⟩)
    (hroots : ∀ file, fs.canonicalize p.path = .ok file → ∀ root, rootIn? fs limits file = some root →
      ∀ n, L.declares ⟨declaredTarget root, n⟩) :
    Agree (AlikeBy L) (Loading.visit limits l p (fs.files p.path)).result
      (Loading.visit limits l' p (fs'.files p.path)).result := by
  rcases hpath : fs.canonicalize p.path with reason | file
  · rw [FileSystem.files_of_error hpath, FileSystem.files_of_error (hfs.canonicalize ▸ hpath)]
    exact .ok h
  rw [FileSystem.files_of_ok hpath, FileSystem.files_of_ok (hfs.canonicalize ▸ hpath)]
  by_cases hv : file ∈ l.visited
  · rw [Loading.visit, Loading.visit, if_pos hv, if_pos (h.visited ▸ hv)]
    exact .ok h
  have hmet : AlikeBy L { l with visited := file :: l.visited } { l' with visited := file :: l'.visited } :=
    ⟨h.schema, congrArg (file :: ·) h.visited, h.pending, h.roles⟩
  simp only [Loading.visit, if_neg hv, if_neg (h.visited ▸ hv), Traced.result_bind, Traced.result_lift]
  rw [h.visited] at hmet ⊢
  refine (agree_refl (R := Eq) (fun _ => rfl) _).bind fun _ _ _ => ?_
  have hread := hfs.read file
  have hroots := hroots file hpath
  generalize hc : fs.read file = c at hread
  generalize fs'.read file = c' at hread
  cases hread with
  | unreadable => exact .ok hmet
  | read hsize hrewritten =>
    have hagree := rootsAgree_of_rewritten hrewritten fun root hroot =>
      hroots root (rootIn?_eq_some_iff.2 ⟨_, hc, hroot⟩)
    simp only [Traced.result_bind, Traced.result_lift]
    exact ((agree_checkSize hsize).reportedAt _ _).bind fun _ _ _ => hmet.addFound hrole hagree _ _

/-! ## Runs -/

/-- Files of which a compilation comes to no others than these, and in which documents declare namespaces of which
everything can be declared. -/
structure Declaring (L : Likeness) (fs : FileSystem) (limits : Limits) (P : Path → Prop) : Prop where
  closed : ∀ file, P file → ∀ target ∈ leadsTo fs limits file, P target
  declares : ∀ file, P file → ∀ root, rootIn? fs limits file = some root → ∀ n, L.declares ⟨declaredTarget root, n⟩

namespace Loading

/-- The files pending are all among some files. -/
def PendingIn (fs : FileSystem) (P : Path → Prop) (l : Loading) : Prop :=
  ∀ p ∈ l.pending, ∀ file, fs.canonicalize p.path = .ok file → P file

variable {P : Path → Prop} {l l' : Loading}

theorem PendingIn.visit (h : l.PendingIn fs P) (hP : Declaring L fs limits P) {p : Pending}
    (hp : ∀ file, fs.canonicalize p.path = .ok file → P file)
    (hm : (Loading.visit limits l p (fs.files p.path)).result = .ok l') : l'.PendingIn fs P := by
  cases visit_of_result hm with
  | missing | again | unreadable => exact h
  | read src hfile _ _ _ hread =>
    refine List.forall_mem_append.2 ⟨h, fun q hq target htarget => ?_⟩
    exact hP.closed _ (hp _ hfile) _ (hread.mem_leadsTo_iff.2 ⟨q, hq, htarget⟩)

/-- Alike compilations load alike schemas, or both come to a fault. -/
theorem AlikeBy.visitAll {l l' : Loading} (hfs : FileSystem.RewrittenBy (Xml.RootAlike L) limits fs fs')
    (hP : Declaring L fs limits P) (h : l.AlikeBy L l') (hin : l.PendingIn fs P) :
    Agree (Schema.AlikeBy L) (l.visitAll fs.files limits).result (l'.visitAll fs'.files limits).result := by
  rcases hl : l.pending with _ | ⟨p, rest⟩
  · rw [visitAll_nil hl, visitAll_nil (h.pending.trans hl)]
    exact .ok h.schema
  · have hroles := h.roles
    rw [PendingIn, hl, List.forall_mem_cons] at hin
    rw [hl, List.forall_mem_cons] at hroles
    have hnext : AlikeBy L { l with pending := rest } { l' with pending := rest } :=
      ⟨h.schema, h.visited, rfl, hroles.2⟩
    have hstep := hnext.visit hfs hroles.1 fun file hfile => hP.declares file (hin.1 file hfile)
    rw [visitAll_cons hl, visitAll_cons (h.pending.trans hl), Traced.result_bind, Traced.result_bind]
    generalize (Loading.visit limits { l' with pending := rest } p (fs'.files p.path)).result = step' at hstep
    rcases hm : (Loading.visit limits { l with pending := rest } p (fs.files p.path)).result with e | m
    · rw [hm] at hstep
      cases hstep with
      | error hkind => exact .error hkind
    · rw [hm] at hstep
      cases hstep with
      | ok hm' =>
        have hrest : PendingIn fs P { l with pending := rest } := hin.2
        exact AlikeBy.visitAll hfs hP hm' (hrest.visit hP hin.1 hm)
termination_by l.measure limits
decreasing_by exact visit_measure hl hm

end Loading

/-! ## Compilations -/

/-- The attributes of the XML namespace are supplied to both. -/
theorem AlikeBy.complete {s s' : Schema} (h : s.AlikeBy L s') (hxml : ∀ n, L.declares ⟨xmlNamespace, n⟩) :
    Agree (AlikeBy L) (Schema.complete limits s).result (Schema.complete limits s').result := by
  have hsupplied : s'.suppliedAttributes = s.suppliedAttributes := by
    unfold suppliedAttributes Keyed.contains
    rw [h.importsXml, h.attributes.keys]
  have hbuiltin (l : String) : TypeRef.Alike L (.named ⟨schemaNamespace, l⟩) (.named ⟨schemaNamespace, l⟩) :=
    .named (L.refl _)
  have halike : ∀ a ∈ xmlAttributes, a.Alike L a := by
    simp only [xmlAttributes, List.forall_mem_cons]
    refine ⟨.mk (hxml _) (.some (hbuiltin _)), ?_, .mk (hxml _) (.some (hbuiltin _)),
      .mk (hxml _) (.some (hbuiltin _)), List.forall_mem_nil _⟩
    exact .mk (hxml _) (.some (.inline (.simple (.mk (.restriction (.some (hbuiltin _)))))))
  simp only [Schema.complete, Traced.result_bind, Traced.result_lift, Traced.result_lines, Traced.result_pure]
  rw [h.elements.size, hsupplied]
  refine (agree_refl (R := Eq) (fun _ => rfl) _).bind fun _ _ _ => .ok (h.addAttributes (List.forall₂_same.2 ?_))
  intro a ha
  unfold suppliedAttributes at ha
  split at ha
  · exact halike a (List.mem_of_mem_filter ha)
  · cases ha

/-- What is pending at the beginning is what the primary document leads to. -/
theorem pendingIn_of_begin {P : Path → Prop} {options : Options} (hP : Declaring L fs options.limits P) {path : Path}
    (hmain : ∀ file, fs.canonicalize path = .ok file → P file) :
    Gives (Loading.PendingIn fs P) (begin options path (fs.files path)).result := by
  intro l h
  obtain ⟨main, hfile, -, -, hread, rfl⟩ := Loading.begin_eq_ok h
  exact fun p hp target htarget => hP.closed _ (hmain _ hfile) _ (hread.mem_leadsTo_iff.2 ⟨p, hp, htarget⟩)

section

variable {P : Path → Prop} {options : Options} (hfs : FileSystem.RewrittenBy (Xml.RootAlike L) options.limits fs fs')
  (hP : Declaring L fs options.limits P) {path : Path} (hmain : ∀ file, fs.canonicalize path = .ok file → P file)

include hfs hP hmain

theorem begin_alike : Agree (Loading.AlikeBy L) (begin options path (fs.files path)).result
    (begin options path (fs'.files path)).result := by
  rcases hpath : fs.canonicalize path with reason | file
  · rw [FileSystem.files_of_error hpath, FileSystem.files_of_error (hfs.canonicalize ▸ hpath)]
    exact agree_failAt rfl
  rw [FileSystem.files_of_ok hpath, FileSystem.files_of_ok (hfs.canonicalize ▸ hpath)]
  have hfound : Agree (Option.Rel (Declare L)) (Found.root options.limits ⟨file, fs.read file⟩)
      (Found.root options.limits ⟨file, fs'.read file⟩) := by
    have hread := hfs.read file
    generalize hc : fs.read file = c at hread
    generalize fs'.read file = c' at hread
    cases hread with
    | unreadable => exact agree_fail rfl
    | @read content content' hsize hrewritten =>
      have hagree := rootsAgree_of_rewritten hrewritten fun root hroot =>
        hP.declares file (hmain file hpath) root (rootIn?_eq_some_iff.2 ⟨_, hc, hroot⟩)
      have hbytes : Agree (fun c c' => c = content ∧ c' = content') (Found.bytes options.limits ⟨file, .ok content⟩)
          (Found.bytes options.limits ⟨file, .ok content'⟩) :=
        (agree_checkSize hsize).bind fun _ _ _ => .ok ⟨rfl, rfl⟩
      refine hbytes.bind fun c c' hcc => ?_
      rw [hcc.1, hcc.2]
      exact hagree
  simp only [Schema.begin, Traced.result_bind, Traced.result_lift, Traced.result_line, Traced.result_pure,
    Result.ok_bind]
  refine (hfound.reportedAt _ _).bind fun _ _ hroot => (agree_rootAt _ hroot).bind fun root root' hroot => ?_
  have htarget : checkTarget options.target root' path.text = checkTarget options.target root path.text := by
    unfold checkTarget
    rw [declaredTarget_of_alike hroot.alike.alike]
  rw [htarget]
  refine (agree_refl (R := Eq) (fun _ => rfl) _).bind fun _ _ _ => ?_
  refine (Loading.AlikeBy.start.add (fun _ h => by cases h) hroot path.text file.parent?).bind fun l l' hl => .ok ?_
  exact ⟨hl.schema.withSources _ _, rfl, hl.pending, hl.roles⟩

/-- Files that are alike compile to alike schemas, or both come to a fault. -/
theorem compileFile_alike (hxml : ∀ n, L.declares ⟨xmlNamespace, n⟩) :
    Agree (AlikeBy L) (compileFile fs.files options path).result (compileFile fs'.files options path).result := by
  simp only [compileFile_eq, Traced.result_bind]
  refine ((begin_alike hfs hP hmain).and_gives (pendingIn_of_begin hP hmain)).bind fun l l' hl => ?_
  refine (hl.1.visitAll hfs hP hl.2).bind fun s s' hs => ?_
  simp only [finish, Traced.result_bind, Traced.result_line, Traced.result_pure]
  exact (hs.complete hxml).bind fun _ _ hs => .ok hs

end

/-- A child of a root says that a document is there, from a text without a place. -/
def RefersTo (root : Element) (path : Path) : Prop :=
  ∃ e ∈ root.children, ∃ location, locationOf e = some location ∧ Location.resolve? location none = some path

theorem pendingIn_of_text {P : Path → Prop} {root : Element}
    (hroot : ∀ path, RefersTo root path → ∀ file, fs.canonicalize path = .ok file → P file) (location : String) :
    Gives (Loading.PendingIn fs P) (Loading.start.add root location none .primary).result := by
  simp only [Loading.add, Traced.result_bind, Traced.result_lift, Traced.result_line, Traced.result_nested,
    Traced.result_lines, Traced.result_pure, Result.ok_bind]
  intro l h
  obtain ⟨d, hd, h⟩ := Result.bind_eq_ok.1 h
  cases h
  exact fun p hp => hroot p.path (exists_location_of_pending hd hp)

/-- Texts that are alike compile to alike schemas, or both come to a fault. -/
theorem compileText_alike {P : Path → Prop} (hfs : FileSystem.RewrittenBy (Xml.RootAlike L) .standard fs fs')
    (hP : Declaring L fs .standard P) {text text' : String}
    (hroots : RootsAgree L .standard (Bytes.ofString text) (Bytes.ofString text'))
    (hmain : ∀ root, Xml.rootOf .standard (Bytes.ofString text) = .ok (some root) → ∀ path, RefersTo root path →
      ∀ file, fs.canonicalize path = .ok file → P file) (hxml : ∀ n, L.declares ⟨xmlNamespace, n⟩) :
    Agree (AlikeBy L) (compileText fs.files text) (compileText fs'.files text') := by
  have hroot := hroots.and_gives (P := fun found => Xml.rootOf .standard (Bytes.ofString text) = .ok found) fun _ => id
  refine (hroot.reportedAt _ _).bind fun found found' hfound => ?_
  obtain ⟨hfound, hread⟩ := hfound
  cases hfound with
  | none => exact agree_fail rfl
  | some hroot =>
    have hprimary : ∀ target, Role.primary = .included target → ∀ n, L.declares ⟨target, n⟩ := fun _ h => by cases h
    have hadd := Loading.AlikeBy.start.add hprimary hroot "<string>" none
    refine (hadd.and_gives (pendingIn_of_text (hmain _ hread) _)).bind fun l l' hl => ?_
    exact (hl.1.visitAll hfs hP hl.2).bind fun s s' hs => hs.complete hxml

end Schema

end SchemaHints
