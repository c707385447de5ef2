/-
Limits only filter. A limit is compared with a count and refuses, and nothing else looks at it; so whatever
succeeds within limits goes the same way within larger ones. That is shown for one function after another, on
the way from the checks to a compilation, each of which makes its steps in the same order whatever the limits.

And what has succeeded is within the limits: each file that became a source was measured before its markup was
read, each tag was measured when it opened, on the stack of the elements then open, and the global elements were
counted in the end.
-/
import SchemaHints.FileTree
import SchemaHints.Proofs.Fault.Result
import SchemaHints.Proofs.Loading.Order

namespace SchemaHints

open Result

/-- Limits that are as large as others, each of them. -/
structure Limits.AtMost (limits limits' : Limits) : Prop where
  depth : limits.depth ≤ limits'.depth
  size : limits.size ≤ limits'.size
  documents : limits.documents ≤ limits'.documents
  elements : limits.elements ≤ limits'.elements

/-! ## Larger limits -/

namespace Limits.AtMost

variable {limits limits' : Limits}

theorem checkDepth (h : limits.AtMost limits') (n : Nat) : KeptBy (limits.checkDepth n) (limits'.checkDepth n) :=
  fun _ hn => checkDepth_eq_ok.2 ((checkDepth_eq_ok.1 hn).trans h.depth)

theorem checkSize (h : limits.AtMost limits') (n : Nat) : KeptBy (limits.checkSize n) (limits'.checkSize n) :=
  fun _ hn => checkSize_eq_ok.2 ((checkSize_eq_ok.1 hn).trans h.size)

theorem checkDocuments (h : limits.AtMost limits') (n : Nat) :
    KeptBy (limits.checkDocuments n) (limits'.checkDocuments n) :=
  fun _ hn => checkDocuments_eq_ok.2 ((checkDocuments_eq_ok.1 hn).trans h.documents)

theorem checkElements (h : limits.AtMost limits') (n : Nat) :
    KeptBy (limits.checkElements n) (limits'.checkElements n) :=
  fun _ hn => checkElements_eq_ok.2 ((checkElements_eq_ok.1 hn).trans h.elements)

/-! ### Markup -/

theorem enter (h : limits.AtMost limits') (p : Xml.Partial) (tag : Except Xml.TagFault Xml.Tag) :
    KeptBy (p.enter limits tag) (p.enter limits' tag) :=
  (h.checkDepth _).bind fun _ => keptBy_refl _

theorem take (h : limits.AtMost limits') (p : Xml.Partial) (event : Xml.Event) :
    KeptBy (p.take limits event) (p.take limits' event) := by
  cases event with
  | opening tag => exact (h.enter p tag).bind fun _ => keptBy_refl _
  | selfClosing tag => exact (h.enter p tag).bind fun _ => keptBy_refl _
  | closing => exact keptBy_refl _
  | malformed position reason => exact keptBy_refl _

theorem takeAll (h : limits.AtMost limits') (p : Xml.Partial) (events : List Xml.Event) :
    KeptBy (p.takeAll limits events) (p.takeAll limits' events) := by
  induction events generalizing p with
  | nil => exact keptBy_refl _
  | cons event events ih => exact (h.take p event).bind ih

theorem rootOf (h : limits.AtMost limits') (document : Bytes) :
    KeptBy (Xml.rootOf limits document) (Xml.rootOf limits' document) :=
  (h.takeAll .empty _).bind fun _ => keptBy_refl _

theorem root (h : limits.AtMost limits') (f : Found) : KeptBy (f.root limits) (f.root limits') := by
  have hbytes : KeptBy (f.bytes limits) (f.bytes limits') := by
    unfold Found.bytes
    split
    · exact keptBy_refl _
    · exact (h.checkSize _).bind fun _ => keptBy_refl _
  exact hbytes.bind h.rootOf

/-! ### Compilations -/

open Schema Loading

theorem visit (h : limits.AtMost limits') (l : Loading) (p : Pending) (answer : Except FileFault Found) :
    KeptBy (Loading.visit limits l p answer).result (Loading.visit limits' l p answer).result := by
  unfold Loading.visit
  cases answer with
  | error reason => exact keptBy_refl _
  | ok found =>
    simp only
    split
    · exact keptBy_refl _
    simp only [Traced.result_bind, Traced.result_lift]
    refine ((h.checkDocuments _).reportedAt p.path.text).bind fun _ => ?_
    split
    · exact keptBy_refl _
    · simp only [Traced.result_bind, Traced.result_lift, addFound]
      refine ((h.checkSize _).reportedAt p.path.text).bind fun _ => ?_
      exact ((h.rootOf _).reportedAt p.path.text).bind fun _ => keptBy_refl _

theorem visitAll (h : limits.AtMost limits') (files : Files) (l : Loading) :
    KeptBy (l.visitAll files limits).result (l.visitAll files limits').result := by
  intro s hs
  rcases hl : l.pending with _ | ⟨p, rest⟩
  · rw [visitAll_nil hl] at hs ⊢
    exact hs
  · rw [visitAll_cons hl, Traced.result_bind] at hs ⊢
    obtain ⟨l', hv, hs⟩ := Result.bind_eq_ok.1 hs
    exact Result.bind_eq_ok.2 ⟨l', h.visit _ _ _ l' hv, h.visitAll files l' s hs⟩
termination_by l.measure limits
decreasing_by exact visit_measure hl hv

theorem begin (h : limits.AtMost limits') (target : Option String) (path : Path) (answer : Except FileFault Found) :
    KeptBy (Schema.begin ⟨limits, target⟩ path answer).result (Schema.begin ⟨limits', target⟩ path answer).result := by
  cases answer with
  | error reason => exact keptBy_refl _
  | ok found =>
    simp only [Schema.begin, Traced.result_bind, Traced.result_lift]
    exact ((h.root found).reportedAt path.text).bind fun _ => keptBy_refl _

theorem finish (h : limits.AtMost limits') (target : Option String) (s : Schema) :
    KeptBy (Schema.finish ⟨limits, target⟩ s).result (Schema.finish ⟨limits', target⟩ s).result := by
  simp only [Schema.finish, complete, Traced.result_bind, Traced.result_lift]
  refine KeptBy.bind ?_ fun _ => keptBy_refl _
  exact ((h.checkElements _).reportedAt _).bind fun _ => keptBy_refl _

/-- The schema that is compiled within limits is compiled within larger ones. -/
theorem compileFile (h : limits.AtMost limits') (files : Files) (target : Option String) (path : Path) :
    KeptBy (Schema.compileFile files ⟨limits, target⟩ path).result
      (Schema.compileFile files ⟨limits', target⟩ path).result := by
  rw [compileFile_eq, compileFile_eq, Traced.result_bind, Traced.result_bind]
  refine (h.begin target path _).bind fun l => ?_
  rw [Traced.result_bind, Traced.result_bind]
  exact (h.visitAll files l).bind fun s => h.finish target s

end Limits.AtMost

/-! ## Nesting of tags -/

namespace Xml

/-- Whether an event is a tag that starts an element. -/
def Event.isStart : Event → Bool
  | .opening _ | .selfClosing _ => true
  | .closing | .malformed .. => false

/-- The number of elements that an event leaves open when there are `n` before. -/
def Event.nesting (n : Nat) : Event → Nat
  | .opening _ => n + 1
  | .closing => n - 1
  | .selfClosing _ | .malformed .. => n

/-- The number of elements that are open after some events. -/
def nesting (events : List Event) : Nat := events.foldl Event.nesting 0

/-- Each tag that starts an element is nested at most `n` deep, with the element itself. -/
def NestedWithin (n : Nat) (document : Bytes) : Prop :=
  ∀ before event after, eventsOf document = before ++ event :: after → event.isStart = true → nesting before + 1 ≤ n

namespace Partial

variable {limits : Limits} {p q : Partial}

theorem length_attach (p : Partial) (e : Element) : (p.attach e).stack.length = p.stack.length := by
  unfold attach
  split
  · rfl
  · rename_i hs
    rw [hs]
    rfl

theorem depth_le_of_enter {tag : Except TagFault Tag} {e : Element} (h : p.enter limits tag = .ok e) :
    p.stack.length + 1 ≤ limits.depth := by
  obtain ⟨_, hdepth, -⟩ := Result.bind_eq_ok.1 h
  exact Limits.checkDepth_eq_ok.1 hdepth

/-- The stack is as high as the events say. -/
theorem length_take {event : Event} (h : p.take limits event = .ok q) :
    q.stack.length = event.nesting p.stack.length := by
  cases event with
  | opening tag =>
    obtain ⟨e, -, h⟩ := Result.bind_eq_ok.1 h
    cases h
    rfl
  | selfClosing tag =>
    obtain ⟨e, -, h⟩ := Result.bind_eq_ok.1 h
    cases h
    exact p.length_attach e
  | closing =>
    rw [take] at h
    split at h
    · rename_i hs
      cases h
      rw [hs]
      rfl
    · rename_i e outer hs
      cases h
      rw [length_attach, hs]
      rfl
  | malformed position reason => cases h

theorem length_takeAll {events : List Event} (h : p.takeAll limits events = .ok q) :
    q.stack.length = events.foldl Event.nesting p.stack.length := by
  induction events generalizing p with
  | nil =>
    cases h
    rfl
  | cons event events ih =>
    obtain ⟨p', hp, h⟩ := Result.bind_eq_ok.1 h
    rw [List.foldl_cons, ← length_take hp]
    exact ih h

end Partial

/-- In a document that is read within limits no tag is nested too deep. -/
theorem nestedWithin_of_rootOf {limits : Limits} {document : Bytes} {root : Option Element}
    (h : rootOf limits document = .ok root) : NestedWithin limits.depth document := by
  intro before event after hevents hstart
  obtain ⟨p, hp, -⟩ := Result.bind_eq_ok.1 h
  rw [hevents, Partial.takeAll_append] at hp
  obtain ⟨p', hbefore, hp⟩ := Result.bind_eq_ok.1 hp
  obtain ⟨p'', htake, -⟩ := Result.bind_eq_ok.1 hp
  -- the tag is measured on the stack that the events before it have left
  have hlength : p'.stack.length = nesting before := Partial.length_takeAll hbefore
  rw [← hlength]
  cases event with
  | opening tag =>
    obtain ⟨e, he, -⟩ := Result.bind_eq_ok.1 htake
    exact Partial.depth_le_of_enter he
  | selfClosing tag =>
    obtain ⟨e, he, -⟩ := Result.bind_eq_ok.1 htake
    exact Partial.depth_le_of_enter he
  | closing => cases hstart
  | malformed position reason => cases hstart

end Xml

/-! ## Within the limits -/

namespace Schema

/-- A file that can be read, is small enough, and has no tag that is nested too deep. -/
def FitsIn (fs : FileSystem) (limits : Limits) (file : Path) : Prop :=
  ∃ content, fs.read file = .ok content ∧ content.length ≤ limits.size ∧ Xml.NestedWithin limits.depth content

/-- The document in a file is measured before it is read. -/
theorem Source.IsRead.fitsIn {fs : FileSystem} {limits : Limits} {src : Source} (h : src.IsRead fs limits)
    (hsize : ∀ content, fs.read src.path = .ok content → content.length ≤ limits.size) :
    FitsIn fs limits src.path := by
  obtain ⟨content, hcontent, hroot⟩ := h.root
  exact ⟨content, hcontent, hsize content hcontent, Xml.nestedWithin_of_rootOf hroot⟩

namespace Loading

variable {fs : FileSystem} {limits : Limits} {l l' : Loading} {p : Pending}

/-- A visit that reads a new file has found it small enough. -/
theorem size_le_of_visit {file : Path} (hc : fs.canonicalize p.path = .ok file) (hnew : file ∉ l.visited)
    (h : (visit limits l p (fs.files p.path)).result = .ok l') {content : Bytes} (hr : fs.read file = .ok content) :
    content.length ≤ limits.size := by
  rw [FileSystem.files_of_ok hc] at h
  simp only [visit, if_neg hnew, hr, Traced.result_bind, Traced.result_lift] at h
  obtain ⟨-, -, h⟩ := Result.bind_eq_ok.1 h
  obtain ⟨_, hsize, -⟩ := Result.bind_eq_ok.1 h
  exact Limits.checkSize_eq_ok.1 (reportedAt_eq_ok hsize)

theorem fitsIn_of_visit (hl : ∀ file ∈ l.schema.sources, FitsIn fs limits file)
    (h : (visit limits l p (fs.files p.path)).result = .ok l') : ∀ file ∈ l'.schema.sources, FitsIn fs limits file := by
  have hsize {file : Path} (hc : fs.canonicalize p.path = .ok file) (hnew : file ∉ l.visited) (content : Bytes)
      (hr : fs.read file = .ok content) : content.length ≤ limits.size := size_le_of_visit hc hnew h hr
  cases visit_of_result h with
  | missing hc => exact hl
  | again hc hm => exact hl
  | unreadable hc hm hr => exact hl
  | read src hc hm hlocation hrole hread =>
    intro file hfile
    rcases List.mem_append.1 hfile with hfile | hfile
    · exact hl file hfile
    · rw [List.mem_singleton.1 hfile]
      exact hread.fitsIn (hsize hc hm)

theorem fitsIn_of_begin {options : Options} {path : Path}
    (h : (begin options path (fs.files path)).result = .ok l) :
    ∀ file ∈ l.schema.sources, FitsIn fs options.limits file := by
  obtain ⟨main, hc, -, -, hread, rfl⟩ := begin_eq_ok h
  have hsize (content : Bytes) (hr : fs.read main.path = .ok content) : content.length ≤ options.limits.size := by
    rw [FileSystem.files_of_ok hc] at h
    simp only [begin, Found.root, Found.bytes, hr, Traced.result_bind, Traced.result_lift] at h
    obtain ⟨root, hroot, -⟩ := Result.bind_eq_ok.1 h
    obtain ⟨content', hbytes, -⟩ := Result.bind_eq_ok.1 (reportedAt_eq_ok hroot)
    obtain ⟨_, hsize, -⟩ := Result.bind_eq_ok.1 hbytes
    exact Limits.checkSize_eq_ok.1 hsize
  intro file hfile
  have hmain : file = main.path := List.mem_singleton.1 hfile
  rw [hmain]
  exact hread.fitsIn hsize

end Loading

theorem size_le_of_finish {options : Options} {s s' : Schema} (h : (finish options s).result = .ok s') :
    s.elements.size ≤ options.limits.elements := by
  simp only [finish, complete, Traced.result_bind, Traced.result_lift] at h
  obtain ⟨_, h, -⟩ := Result.bind_eq_ok.1 h
  obtain ⟨_, helements, -⟩ := Result.bind_eq_ok.1 h
  exact Limits.checkElements_eq_ok.1 (Loading.reportedAt_eq_ok helements)

/-- Limits only filter: the schema that is compiled within limits is compiled within any larger ones. And its
files and its global elements are within the limits. -/
theorem compileFile_limits {fs : FileSystem} {limits : Limits} {target : Option String} {path : Path} {s : Schema}
    (h : (compileFile fs.files ⟨limits, target⟩ path).result = .ok s) :
    (∀ limits', limits.AtMost limits' → (compileFile fs.files ⟨limits', target⟩ path).result = .ok s) ∧
    (∀ file ∈ s.sources, ∃ content, fs.read file = .ok content ∧ content.length ≤ limits.size ∧
      Xml.NestedWithin limits.depth content) ∧
    s.elements.size ≤ limits.elements := by
  refine ⟨fun limits' hle => hle.compileFile fs.files target path s h, ?_⟩
  obtain ⟨start, n, final, hs, hn, -, hf⟩ := compileFile_eq_ok h
  have hfits : ∀ file ∈ final.schema.sources, FitsIn fs limits file := by
    refine Loading.after_induction (P := fun l => ∀ file ∈ l.schema.sources, FitsIn fs limits file) ?_
      (Loading.fitsIn_of_begin hs) hn
    intro l p rest l' hl _ hv
    exact Loading.fitsIn_of_visit (l := { l with pending := rest }) hl hv
  have helements := size_le_of_finish hf
  rw [finish_eq_ok hf]
  exact ⟨hfits, helements⟩

/-- A document that includes another. -/
def includingPair : FileTree := .ofFiles
  [("a.xsd", documentBytes "" ["<xs:include schemaLocation='b.xsd'/>"]),
    ("b.xsd", documentBytes "" ["<xs:element name='b'/>"])]

/-- Limits that these two documents just keep within. -/
def tightLimits : Limits := ⟨2, 106, 2, 1⟩

theorem compileFile_limits_tight : ∃ s,
    (compileFile includingPair.toFiles ⟨tightLimits, none⟩ (.ofString "a.xsd")).result = .ok s ∧
      s.sources = [.ofString "/a.xsd", .ofString "/b.xsd"] ∧
      (compileFile includingPair.toFiles .standard (.ofString "a.xsd")).result = .ok s := by
  have hcomputed : (compiledWithin includingPair.fileSystem.files ⟨tightLimits, none⟩ (.ofString "a.xsd") 1).map
      (fun s => s.sources) = some [.ofString "/a.xsd", .ofString "/b.xsd"] := by
    decide +kernel
  obtain ⟨s, hcompiled, hsources⟩ := exists_compileFile hcomputed
  obtain ⟨hlarger, -, -⟩ := compileFile_limits hcompiled
  exact ⟨s, hcompiled, hsources, hlarger .standard ⟨by decide, by decide, by decide, by decide⟩⟩

end Schema

end SchemaHints
