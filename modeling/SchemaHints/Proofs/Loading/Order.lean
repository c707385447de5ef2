/-
The order of loading. A compilation reads its primary document and then, first come first served, the
documents referred to. What it has read is told by the references alone: a file counts where the first
reference that leads to it stands, and never again, so cycles and several spellings of one path do no
harm; and what cannot be read leaves nothing behind but a path not to try again.

The state of a compilation is described by the documents read so far and the references followed so
far. A visit moves one reference from the pending ones to those followed.
-/
import SchemaHints.Schema.Compile
import Mathlib.Tactic

namespace SchemaHints.Schema

/-! ## Documents that have been read -/

/-- A document that has been read: its file, the location and the role under which it was reached, its
root element, and what it declares. -/
structure Source where
  path : Path
  location : String
  role : Role
  root : Xml.Element
  document : Document

namespace Source

/-- The references of a document that lead to files, in document order, each with the role of what it
refers to. -/
def references (src : Source) : List Pending := src.document.pending src.path.parent?

/-- Whether a document imports the XML namespace. -/
def importsXml (src : Source) : Bool := src.document.references.any Reference.importsXml

/-- The document is the one in its file, read under its role. -/
structure IsRead (fs : FileSystem) (limits : Limits) (src : Source) : Prop where
  root : ∃ content, fs.read src.path = .ok content ∧ Xml.rootOf limits content = .ok (some src.root)
  document : Document.read src.root src.location src.role = .ok src.document

end Source

/-- The root of the document in a file. -/
def rootIn? (fs : FileSystem) (limits : Limits) (path : Path) : Option Xml.Element := do
  let content ← (fs.read path).toOption
  let root ← (Xml.rootOf limits content).toOption
  root

theorem rootIn?_eq_some_iff {fs : FileSystem} {limits : Limits} {path : Path} {root : Xml.Element} :
    rootIn? fs limits path = some root ↔
      ∃ content, fs.read path = .ok content ∧ Xml.rootOf limits content = .ok (some root) := by
  unfold rootIn?
  constructor
  · intro h
    obtain ⟨content, hcontent, h⟩ := Option.bind_eq_some_iff.1 h
    obtain ⟨found, hfound, rfl⟩ := Option.bind_eq_some_iff.1 h
    exact ⟨content, Result.toOption_eq_some.1 hcontent, Result.toOption_eq_some.1 hfound⟩
  · rintro ⟨content, hcontent, hroot⟩
    rw [hcontent]
    show (Xml.rootOf limits content).toOption.bind _ = _
    rw [hroot]
    rfl

theorem Source.IsRead.rootIn?_eq {fs : FileSystem} {limits : Limits} {src : Source} (h : src.IsRead fs limits) :
    rootIn? fs limits src.path = some src.root := rootIn?_eq_some_iff.2 h.root

/-- Adds what a document declares, and its file. -/
def addSource (s : Schema) (src : Source) : Schema :=
  { s.merge src.document with
    target := if src.role = .primary then src.document.target else s.target
    importsXml := s.importsXml || src.importsXml
    sources := s.sources ++ [src.path] }

/-- The schema of some documents. -/
def ofSources (sources : List Source) : Schema := sources.foldl addSource .empty

theorem ofSources_concat (sources : List Source) (src : Source) :
    ofSources (sources ++ [src]) = (ofSources sources).addSource src := List.foldl_concat ..

/-! ## Visits -/

namespace Loading

/-- Adds a document, with its references pending. -/
def addSource (l : Loading) (src : Source) : Loading :=
  ⟨l.schema.addSource src, l.visited, l.pending ++ src.references⟩

/-- Adding a document does all of that but for the file, which is added to the sources afterwards. -/
theorem add_eq_ok {l l' : Loading} {root : Xml.Element} {location : String} {path : Path} {role : Role}
    (h : (l.add root location path.parent? role).result = .ok l') :
    ∃ src : Source, src.path = path ∧ src.location = location ∧ src.role = role ∧ src.root = root ∧
      Document.read root location role = .ok src.document ∧
      l' = { l.addSource src with schema := { l.schema.addSource src with sources := l.schema.sources } } := by
  unfold add at h
  simp only [Traced.result_bind, Traced.result_lift, Traced.result_line, Traced.result_nested,
    Traced.result_lines, Traced.result_pure] at h
  obtain ⟨d, hd, h⟩ := Result.bind_eq_ok.1 h
  cases h
  exact ⟨⟨path, location, role, root, d⟩, rfl, rfl, rfl, rfl, hd, rfl⟩

theorem rootAt_eq_ok {location : String} {found : Option Xml.Element} {root : Xml.Element}
    (h : rootAt location found = .ok root) : found = some root := by
  cases found with
  | none => cases h
  | some root' => exact congrArg some (Except.ok.inj h)

theorem reportedAt_eq_ok {α : Type} {location : String} {x : Result α} {a : α}
    (h : x.reportedAt location = .ok a) : x = .ok a := by
  cases x with
  | error e => cases h
  | ok b => exact h

theorem bytes_eq_ok {limits : Limits} {f : Found} {content : Bytes} (h : f.bytes limits = .ok content) :
    f.content = .ok content := by
  unfold Found.bytes at h
  split at h
  · cases h
  · rename_i content' hc
    obtain ⟨-, -, h⟩ := Result.bind_eq_ok.1 h
    cases h
    exact hc

/-- What a visit does: the document is not there, or its file has been visited before, or cannot be read,
or is read. -/
inductive Visit (fs : FileSystem) (limits : Limits) (l : Loading) (p : Pending) : Loading → Prop
  | missing {reason : FileFault} : fs.canonicalize p.path = .error reason → Visit fs limits l p l
  | again {path : Path} : fs.canonicalize p.path = .ok path → path ∈ l.visited → Visit fs limits l p l
  | unreadable {path : Path} {reason : FileFault} :
    fs.canonicalize p.path = .ok path → path ∉ l.visited → fs.read path = .error reason →
      Visit fs limits l p { l with visited := path :: l.visited }
  | read (src : Source) :
    fs.canonicalize p.path = .ok src.path → src.path ∉ l.visited →
      src.location = p.path.text → src.role = p.role → src.IsRead fs limits →
      Visit fs limits l p ({ l with visited := src.path :: l.visited }.addSource src)

theorem visit_of_result {fs : FileSystem} {limits : Limits} {l l' : Loading} {p : Pending}
    (h : (visit limits l p (fs.files p.path)).result = .ok l') : Visit fs limits l p l' := by
  rcases hp : fs.canonicalize p.path with reason | path
  · rw [FileSystem.files_of_error hp] at h
    cases h
    exact .missing hp
  rw [FileSystem.files_of_ok hp] at h
  unfold visit at h
  simp only at h
  split at h
  · rename_i hv
    cases h
    exact .again hp hv
  rename_i hv
  simp only [Traced.result_bind, Traced.result_lift] at h
  obtain ⟨-, -, h⟩ := Result.bind_eq_ok.1 h
  split at h
  · rename_i reason hr
    cases h
    exact .unreadable hp hv hr
  · rename_i content hr
    simp only [addFound, Traced.result_bind, Traced.result_lift, Traced.result_pure] at h
    obtain ⟨-, -, h⟩ := Result.bind_eq_ok.1 h
    obtain ⟨found, hf, h⟩ := Result.bind_eq_ok.1 h
    obtain ⟨root, hroot, h⟩ := Result.bind_eq_ok.1 h
    obtain ⟨l'', hl, h⟩ := Result.bind_eq_ok.1 h
    cases h
    obtain ⟨src, rfl, hlocation, hrole, rfl, hd, rfl⟩ := add_eq_ok hl
    obtain rfl := rootAt_eq_ok hroot
    rw [← hlocation, ← hrole] at hd
    exact .read src hp hv hlocation hrole ⟨⟨content, hr, reportedAt_eq_ok hf⟩, hd⟩

/-- A compilation begins with the primary document. -/
theorem begin_eq_ok {fs : FileSystem} {options : Options} {path : Path} {l : Loading}
    (h : (begin options path (fs.files path)).result = .ok l) :
    ∃ main : Source, fs.canonicalize path = .ok main.path ∧ main.location = path.text ∧ main.role = .primary ∧
      main.IsRead fs options.limits ∧ l = { start.addSource main with visited := [main.path] } := by
  rcases hp : fs.canonicalize path with reason | canonical
  · rw [FileSystem.files_of_error hp] at h
    cases h
  rw [FileSystem.files_of_ok hp] at h
  simp only [begin, Traced.result_bind, Traced.result_lift, Traced.result_line, Traced.result_pure] at h
  obtain ⟨found, hf, h⟩ := Result.bind_eq_ok.1 h
  obtain ⟨root, hroot, h⟩ := Result.bind_eq_ok.1 h
  obtain ⟨-, -, h⟩ := Result.bind_eq_ok.1 h
  obtain ⟨l', hl, h⟩ := Result.bind_eq_ok.1 h
  cases h
  obtain ⟨main, rfl, hlocation, hrole, rfl, hd, rfl⟩ := add_eq_ok hl
  obtain rfl := rootAt_eq_ok hroot
  rw [← hlocation, ← hrole] at hd
  obtain ⟨content, hcontent, hparse⟩ := Result.bind_eq_ok.1 (reportedAt_eq_ok hf)
  have hread := bytes_eq_ok hcontent
  exact ⟨main, rfl, hlocation, hrole, ⟨⟨content, hread, hparse⟩, hd⟩, rfl⟩

/-! ## The run of a compilation -/

/-- The state after at most `n` visits; a state in which nothing is pending stays as it is. -/
def after (files : Files) (limits : Limits) : Nat → Loading → Result Loading
  | 0, l => .ok l
  | n + 1, l => match l.pending with
    | [] => .ok l
    | p :: rest => do
      let l' ← (visit limits { l with pending := rest } p (files p.path)).result
      after files limits n l'

theorem after_of_nil {files : Files} {limits : Limits} {l : Loading} (h : l.pending = []) (n : Nat) :
    after files limits n l = .ok l := by
  cases n with
  | zero => rfl
  | succ n => rw [after, h]

theorem after_of_cons {files : Files} {limits : Limits} {l : Loading} {p : Pending} {rest : List Pending}
    (h : l.pending = p :: rest) (n : Nat) :
    after files limits (n + 1) l = (do
      let l' ← (visit limits { l with pending := rest } p (files p.path)).result
      after files limits n l') := by
  rw [after, h]

/-- What every visit preserves holds after any number of visits. -/
theorem after_induction {files : Files} {limits : Limits} {P : Loading → Prop}
    (hstep : ∀ {l p rest l'}, P l → l.pending = p :: rest →
      (visit limits { l with pending := rest } p (files p.path)).result = .ok l' → P l')
    {n : Nat} {l final : Loading} (h : P l) (hn : after files limits n l = .ok final) : P final := by
  induction n generalizing l with
  | zero =>
    cases hn
    exact h
  | succ n ih =>
    rcases hp : l.pending with _ | ⟨p, rest⟩
    · rw [after_of_nil hp] at hn
      cases hn
      exact h
    · rw [after_of_cons hp] at hn
      obtain ⟨l', hv, hn⟩ := Result.bind_eq_ok.1 hn
      exact ih (hstep h hp hv) hn

/-- Once all documents are loaded, a number of visits has been enough. -/
theorem exists_after_of_visitAll {files : Files} {limits : Limits} (l : Loading) {s : Schema}
    (h : (l.visitAll files limits).result = .ok s) :
    ∃ n final, after files limits n l = .ok final ∧ final.pending = [] ∧ final.schema = s := by
  rcases hl : l.pending with _ | ⟨p, rest⟩
  · rw [visitAll_nil hl] at h
    exact ⟨0, l, rfl, hl, Except.ok.inj h⟩
  · rw [visitAll_cons hl, Traced.result_bind] at h
    obtain ⟨l', hv, h⟩ := Result.bind_eq_ok.1 h
    obtain ⟨n, final, hn, hp, hs⟩ := exists_after_of_visitAll l' h
    refine ⟨n + 1, final, ?_, hp, hs⟩
    rw [after_of_cons hl]
    exact Result.bind_eq_ok.2 ⟨l', hv, hn⟩
termination_by l.measure limits
decreasing_by exact visit_measure hl hv

/-- Visits leave the rest of the loading to the state that they lead to. -/
theorem result_visitAll_of_after {files : Files} {limits : Limits} {n : Nat} {l l' : Loading}
    (h : after files limits n l = .ok l') :
    (l.visitAll files limits).result = (l'.visitAll files limits).result := by
  induction n generalizing l with
  | zero =>
    cases h
    rfl
  | succ n ih =>
    rcases hl : l.pending with _ | ⟨p, rest⟩
    · rw [after_of_nil hl] at h
      cases h
      rfl
    · rw [after_of_cons hl] at h
      obtain ⟨next, hv, h⟩ := Result.bind_eq_ok.1 h
      rw [visitAll_cons hl, Traced.result_bind, hv, Result.ok_bind]
      exact ih h

/-- A loading that fails does so in a visit, after a number of visits that do not. -/
theorem exists_after_of_visitAll_error {files : Files} {limits : Limits} (l : Loading) {f : Fault}
    (h : (l.visitAll files limits).result = .error f) :
    ∃ n last p rest, after files limits n l = .ok last ∧ last.pending = p :: rest ∧
      (visit limits { last with pending := rest } p (files p.path)).result = .error f := by
  rcases hl : l.pending with _ | ⟨p, rest⟩
  · rw [visitAll_nil hl] at h
    cases h
  · rw [visitAll_cons hl, Traced.result_bind] at h
    rcases hv : (visit limits { l with pending := rest } p (files p.path)).result with e | l'
    · rw [hv] at h
      cases h
      exact ⟨0, l, p, rest, rfl, hl, hv⟩
    · rw [hv, Result.ok_bind] at h
      obtain ⟨n, last, p', rest', hn, hp, hf⟩ := exists_after_of_visitAll_error l' h
      refine ⟨n + 1, last, p', rest', ?_, hp, hf⟩
      rw [after_of_cons hl, hv]
      exact hn
termination_by l.measure limits
decreasing_by exact visit_measure hl hv

/-- Visits that fail are where the loading fails. -/
theorem result_visitAll_of_error {files : Files} {limits : Limits} {n : Nat} {l : Loading} {f : Fault}
    (h : after files limits n l = .error f) : (l.visitAll files limits).result = .error f := by
  induction n generalizing l with
  | zero => cases h
  | succ n ih =>
    rcases hl : l.pending with _ | ⟨p, rest⟩
    · rw [after_of_nil hl] at h
      cases h
    · rw [after_of_cons hl] at h
      rw [visitAll_cons hl, Traced.result_bind]
      rcases hv : (visit limits { l with pending := rest } p (files p.path)).result with e | next
      · rw [hv] at h
        cases h
        rfl
      · rw [hv, Result.ok_bind] at h
        exact ih h

end Loading

/-! ## The record of a compilation -/

/-- A compilation that began with the document `main`, has read those in `later`, and has followed the
references in `taken`. -/
structure Loaded (fs : FileSystem) (limits : Limits) (l : Loading) (main : Source) (later : List Source)
    (taken : List Pending) : Prop where
  queue : taken ++ l.pending = (main :: later).flatMap Source.references
  visited : ∀ path, path ∈ l.visited ↔ path = main.path ∨ ∃ p ∈ taken, fs.canonicalize p.path = .ok path
  order : (main :: later).map Source.path =
    (main.path :: taken.filterMap fun p => fs.readable? p.path).eraseDups
  read : ∀ src ∈ main :: later, src.IsRead fs limits
  reached : ∀ before src, before ++ [src] <+: main :: later → before ≠ [] →
    ∃ p, (before.flatMap Source.references).find? (fun p => fs.readable? p.path = some src.path) = some p ∧
      src.location = p.path.text ∧ src.role = p.role
  schema : l.schema = ofSources (main :: later)

namespace Loaded

variable {fs : FileSystem} {limits : Limits} {l : Loading} {main : Source} {later : List Source}
  {taken rest : List Pending} {p : Pending}

theorem start (hmain : main.IsRead fs limits) :
    Loaded fs limits { Loading.start.addSource main with visited := [main.path] } main [] [] where
  queue := by simp [Loading.addSource, Loading.start]
  visited := by simp
  order := by simp [List.eraseDups_cons]
  read := by simpa using hmain
  reached := by
    intro before src hb hne
    have hlength := hb.length_le
    simp only [List.length_append, List.length_singleton, add_le_iff_nonpos_left, nonpos_iff_eq_zero,
      List.length_eq_zero_iff] at hlength
    exact absurd hlength hne
  schema := rfl

/-- The files that can be read and have been visited are those of the documents read. -/
theorem mem_visited_iff (h : Loaded fs limits l main later taken) {path : Path} {content : Bytes}
    (hr : fs.read path = .ok content) :
    path ∈ l.visited ↔ path ∈ main.path :: taken.filterMap fun p => fs.readable? p.path := by
  rw [h.visited, List.mem_cons, List.mem_filterMap]
  refine or_congr_right (exists_congr fun p => and_congr_right fun _ => ?_)
  rw [FileSystem.readable?_eq_some_iff]
  exact ⟨fun hp => ⟨hp, content, hr⟩, fun hp => hp.1⟩

/-- A reference that leads to no new file that can be read adds nothing but a path not to try again. -/
theorem pass {visited : List Path} (h : Loaded fs limits l main later taken) (hp : l.pending = p :: rest)
    (hv : ∀ path, path ∈ visited ↔ path ∈ l.visited ∨ fs.canonicalize p.path = .ok path)
    (hr : ∀ path, fs.readable? p.path = some path → path ∈ l.visited) :
    Loaded fs limits ⟨l.schema, visited, rest⟩ main later (taken ++ [p]) where
  queue := by
    rw [← h.queue, hp]
    simp
  visited := by
    intro path
    rw [hv, h.visited]
    simp [or_assoc, or_and_right, exists_or]
  order := by
    rw [h.order, List.filterMap_append, List.filterMap_cons]
    rcases hpath : fs.readable? p.path with _ | path
    · simp
    · obtain ⟨-, content, hcontent⟩ := FileSystem.readable?_eq_some_iff.1 hpath
      simp only [List.filterMap_nil]
      rw [← List.cons_append, Keyed.eraseDups_concat, if_pos ((h.mem_visited_iff hcontent).1 (hr path hpath))]
  read := h.read
  reached := h.reached
  schema := h.schema

/-- A reference that leads to a new file is the first that leads there, and its document comes next. -/
theorem add {src : Source} (h : Loaded fs limits l main later taken) (hp : l.pending = p :: rest)
    (hc : fs.canonicalize p.path = .ok src.path) (hnew : src.path ∉ l.visited)
    (hlocation : src.location = p.path.text) (hrole : src.role = p.role) (hread : src.IsRead fs limits) :
    Loaded fs limits ({ l with visited := src.path :: l.visited, pending := rest }.addSource src) main
      (later ++ [src]) (taken ++ [p]) := by
  obtain ⟨content, hcontent, -⟩ := hread.root
  have hreadable : fs.readable? p.path = some src.path :=
    FileSystem.readable?_eq_some_iff.2 ⟨hc, content, hcontent⟩
  have hfirst : src.path ∉ main.path :: taken.filterMap fun p => fs.readable? p.path :=
    mt (h.mem_visited_iff hcontent).2 hnew
  constructor
  case queue =>
    rw [← List.cons_append, List.flatMap_append, ← h.queue, hp]
    simp [Loading.addSource]
  case visited =>
    intro path
    show path ∈ src.path :: l.visited ↔ _
    rw [List.mem_cons, h.visited]
    simp only [List.mem_append, List.mem_singleton, or_and_right, exists_or, exists_eq_left, hc,
      Except.ok.injEq, eq_comm (a := path)]
    exact or_comm.trans or_assoc
  case order =>
    rw [← List.cons_append, List.map_append, h.order, List.filterMap_append, List.filterMap_cons, hreadable]
    simp only [List.filterMap_nil]
    rw [← List.cons_append, Keyed.eraseDups_concat, if_neg hfirst]
    rfl
  case read =>
    intro src' hm
    rw [← List.cons_append] at hm
    rcases List.mem_append.1 hm with hm | hm
    · exact h.read src' hm
    · rw [List.mem_singleton.1 hm]
      exact hread
  case reached =>
    intro before src' hb hne
    rw [← List.cons_append] at hb
    rcases List.prefix_concat_iff.1 hb with hb | hb
    -- the references followed so far lead elsewhere, and those of the documents before are these and `p`
    · obtain ⟨rfl, hsrc⟩ := List.append_inj' hb rfl
      obtain rfl := List.singleton_inj.1 hsrc
      refine ⟨p, ?_, hlocation, hrole⟩
      have hnone : taken.find? (fun p => fs.readable? p.path = some src'.path) = none := by
        rw [List.find?_eq_none]
        intro q hq hq'
        exact hfirst (List.mem_cons_of_mem _ (List.mem_filterMap.2 ⟨q, hq, of_decide_eq_true hq'⟩))
      rw [← h.queue, hp, List.find?_append, hnone, List.find?_cons_of_pos (by simpa using hreadable)]
      rfl
    · exact h.reached before src' hb hne
  case schema =>
    rw [← List.cons_append, ofSources_concat, ← h.schema]
    rfl

theorem visit {l' : Loading} (h : Loaded fs limits l main later taken) (hp : l.pending = p :: rest)
    (hv : Loading.Visit fs limits { l with pending := rest } p l') :
    ∃ later' taken', Loaded fs limits l' main later' taken' := by
  cases hv with
  | missing hc =>
    refine ⟨later, taken ++ [p], h.pass hp (fun path => ?_) fun path hr => ?_⟩
    · simp [hc]
    · rw [(FileSystem.readable?_eq_some_iff.1 hr).1] at hc
      cases hc
  | again hc hm =>
    refine ⟨later, taken ++ [p], h.pass hp (fun path => ?_) fun path hr => ?_⟩
    · rw [hc, Except.ok.injEq]
      exact ⟨.inl, fun hor => hor.elim id fun heq => heq ▸ hm⟩
    · rw [(FileSystem.readable?_eq_some_iff.1 hr).1] at hc
      cases hc
      exact hm
  | unreadable hc hm hr =>
    refine ⟨later, taken ++ [p], h.pass hp (fun path => ?_) fun path hr' => ?_⟩
    · rw [hc, Except.ok.injEq, List.mem_cons, or_comm, eq_comm]
    · obtain ⟨hc', content, hcontent⟩ := FileSystem.readable?_eq_some_iff.1 hr'
      rw [hc'] at hc
      cases hc
      rw [hr] at hcontent
      cases hcontent
  | read src hc hm hlocation hrole hread =>
    exact ⟨later ++ [src], taken ++ [p], h.add hp hc hm hlocation hrole hread⟩

/-- What is known of the documents read and the references followed stays so with every visit. -/
theorem run {n : Nat} {final : Loading} (h : Loaded fs limits l main later taken)
    (hn : Loading.after fs.files limits n l = .ok final) :
    ∃ later' taken', Loaded fs limits final main later' taken' := by
  refine Loading.after_induction ?_ (P := fun l => ∃ later taken, Loaded fs limits l main later taken)
    ⟨later, taken, h⟩ hn
  rintro l p rest l' ⟨later, taken, h⟩ hp hv
  exact h.visit hp (Loading.visit_of_result hv)

end Loaded

/-! ## The order of the documents -/

/-- The documents `main` and `later` that a compilation of the file at `path` reads, in their order: the
first is the primary document, and any other is read for the first reference that leads to its file. The
files are, after that of `main`, those that the references of all the documents lead to, each where it
occurs first. -/
structure LoadOrder (fs : FileSystem) (limits : Limits) (path : Path) (main : Source) (later : List Source) :
    Prop where
  canonical : fs.canonicalize path = .ok main.path
  location : main.location = path.text
  role : main.role = .primary
  read : ∀ src ∈ main :: later, src.IsRead fs limits
  order : (main :: later).map Source.path = (main.path ::
    ((main :: later).flatMap Source.references).filterMap fun p => fs.readable? p.path).eraseDups
  reached : ∀ before src after, main :: later = before ++ src :: after → before ≠ [] →
    ∃ p, (before.flatMap Source.references).find? (fun p => fs.readable? p.path = some src.path) = some p ∧
      src.location = p.path.text ∧ src.role = p.role

namespace LoadOrder

variable {fs : FileSystem} {limits : Limits} {path : Path} {main : Source} {later : List Source}

theorem nodup (h : LoadOrder fs limits path main later) : ((main :: later).map Source.path).Nodup := by
  rw [h.order]
  exact Keyed.nodup_eraseDups _

/-- A reference of a document that leads to a file which can be read leads to one of the documents. -/
theorem exists_source (h : LoadOrder fs limits path main later) {src : Source} (hsrc : src ∈ main :: later)
    {p : Pending} (hp : p ∈ src.references) {file : Path} (hfile : fs.readable? p.path = some file) :
    ∃ src' ∈ main :: later, src'.path = file := by
  refine List.mem_map.1 ?_
  rw [h.order, List.mem_eraseDups]
  exact List.mem_cons_of_mem _ (List.mem_filterMap.2 ⟨p, List.mem_flatMap.2 ⟨src, hsrc, hp⟩, hfile⟩)

end LoadOrder

theorem Loaded.loadOrder {fs : FileSystem} {limits : Limits} {l : Loading} {path : Path} {main : Source}
    {later : List Source} {taken : List Pending} (h : Loaded fs limits l main later taken)
    (hp : l.pending = []) (hc : fs.canonicalize path = .ok main.path) (hlocation : main.location = path.text)
    (hrole : main.role = .primary) : LoadOrder fs limits path main later where
  canonical := hc
  location := hlocation
  role := hrole
  read := h.read
  order := by
    rw [← h.queue, hp, List.append_nil]
    exact h.order
  reached := fun before src after hsplit => h.reached before src ⟨after, by rw [hsplit, List.append_assoc]; rfl⟩

theorem finish_eq_ok {options : Options} {s s' : Schema} (h : (finish options s).result = .ok s') :
    s' = s.addAttributes s.suppliedAttributes := by
  simp only [finish, complete, Traced.result_bind, Traced.result_lift, Traced.result_line, Traced.result_lines,
    Traced.result_pure] at h
  obtain ⟨s'', hs, h⟩ := Result.bind_eq_ok.1 h
  cases h
  obtain ⟨-, -, hs⟩ := Result.bind_eq_ok.1 hs
  cases hs
  rfl

/-- A compilation that succeeds begins, makes visits until nothing is pending, and ends. -/
theorem compileFile_eq_ok {files : Files} {options : Options} {path : Path} {s : Schema}
    (h : (compileFile files options path).result = .ok s) :
    ∃ start n final, (begin options path (files path)).result = .ok start ∧
      Loading.after files options.limits n start = .ok final ∧ final.pending = [] ∧
      (finish options final.schema).result = .ok s := by
  rw [compileFile_eq, Traced.result_bind] at h
  obtain ⟨start, hs, h⟩ := Result.bind_eq_ok.1 h
  rw [Traced.result_bind] at h
  obtain ⟨s', hl, hf⟩ := Result.bind_eq_ok.1 h
  obtain ⟨n, final, hn, hp, rfl⟩ := Loading.exists_after_of_visitAll start hl
  exact ⟨start, n, final, hs, hn, hp, hf⟩

/-- A compilation that fails does so when it begins, in a visit, or when it ends. -/
theorem compileFile_eq_error {files : Files} {options : Options} {path : Path} {f : Fault}
    (h : (compileFile files options path).result = .error f) :
    (begin options path (files path)).result = .error f ∨
    (∃ start n last p rest, (begin options path (files path)).result = .ok start ∧
      Loading.after files options.limits n start = .ok last ∧ last.pending = p :: rest ∧
      (Loading.visit options.limits { last with pending := rest } p (files p.path)).result = .error f) ∨
    ∃ s, (finish options s).result = .error f := by
  rw [compileFile_eq, Traced.result_bind] at h
  rcases hs : (begin options path (files path)).result with e | start
  · rw [hs] at h
    cases h
    exact .inl rfl
  rw [hs, Result.ok_bind, Traced.result_bind] at h
  rcases hv : (start.visitAll files options.limits).result with e | s
  · rw [hv] at h
    cases h
    obtain ⟨n, last, p, rest, hn, hp, hfail⟩ := Loading.exists_after_of_visitAll_error start hv
    exact .inr (.inl ⟨start, n, last, p, rest, rfl, hn, hp, hfail⟩)
  · rw [hv] at h
    exact .inr (.inr ⟨s, h⟩)

/-- A compilation that succeeds has read some documents in their order; its schema is made of these, and
of the attributes that it uses without declaring them. -/
theorem exists_loadOrder {fs : FileSystem} {options : Options} {path : Path} {s : Schema}
    (h : (compileFile fs.files options path).result = .ok s) :
    ∃ main later, LoadOrder fs options.limits path main later ∧
      s = (ofSources (main :: later)).addAttributes (ofSources (main :: later)).suppliedAttributes := by
  obtain ⟨start, n, final, hs, hn, hp, hf⟩ := compileFile_eq_ok h
  obtain ⟨main, hc, hlocation, hrole, hread, rfl⟩ := Loading.begin_eq_ok hs
  obtain ⟨later, taken, hloaded⟩ := (Loaded.start hread).run hn
  refine ⟨main, later, hloaded.loadOrder hp hc hlocation hrole, ?_⟩
  rw [← hloaded.schema]
  exact finish_eq_ok hf

/-! ## Compilations of a few documents -/

/-- The bytes of a schema document with these attributes and children of its root. -/
def documentBytes (attributes : String) (children : List String) : Bytes :=
  Bytes.ofString "<xs:schema " ++ Bytes.ofString "xmlns:xs='http://www.w3.org/2001/XMLSchema' " ++
    Bytes.ofString attributes ++ Bytes.ofString ">" ++ children.flatMap Bytes.ofString ++
    Bytes.ofString "</xs:schema>"

/-- A compilation that has come to a state after some visits goes on from there. -/
theorem result_compileFile_of_after {files : Files} {options : Options} {path : Path} {n : Nat} {start l : Loading}
    (hs : (begin options path (files path)).result = .ok start)
    (hn : Loading.after files options.limits n start = .ok l) :
    (compileFile files options path).result = (do
      let s ← (l.visitAll files options.limits).result
      (finish options s).result) := by
  rw [compileFile_eq, Traced.result_bind, hs, Result.ok_bind, Traced.result_bind,
    Loading.result_visitAll_of_after hn]

/-- A text whose root can be added compiles to what the visits of its documents come to. -/
theorem compileText_of_after {files : Files} {text : String} {root : Xml.Element} {n : Nat} {l final : Loading}
    {s : Schema} (hroot : Xml.rootOf .standard (Bytes.ofString text) = .ok (some root))
    (hl : (Loading.start.add root "<string>" none .primary).result = .ok l)
    (hn : Loading.after files .standard n l = .ok final) (hp : final.pending = [])
    (hs : (complete .standard final.schema).result = .ok s) : compileText files text = .ok s := by
  have hreported : (Xml.rootOf .standard (Bytes.ofString text)).reportedAt "<string>" = .ok (some root) := by
    rw [hroot]
    rfl
  have hloaded : (l.visitAll files .standard).result = .ok final.schema := by
    rw [Loading.result_visitAll_of_after hn, Loading.visitAll_nil hp]
    rfl
  exact Result.bind_eq_ok.2 ⟨some root, hreported, Result.bind_eq_ok.2 ⟨l, hl, Result.bind_eq_ok.2 ⟨_, hloaded, hs⟩⟩⟩

/-- The schema of a compilation, if its documents are all loaded after `n` visits. -/
def compiledWithin (files : Files) (options : Options) (path : Path) (n : Nat) : Option Schema := do
  let l ← (begin options path (files path)).result.toOption
  let final ← (Loading.after files options.limits n l).toOption
  if final.pending.isEmpty then (finish options final.schema).result.toOption else none

theorem compileFile_of_compiledWithin {files : Files} {options : Options} {path : Path} {n : Nat} {s : Schema}
    (h : compiledWithin files options path n = some s) : (compileFile files options path).result = .ok s := by
  obtain ⟨l, hl, h⟩ := Option.bind_eq_some_iff.1 h
  obtain ⟨final, hn, h⟩ := Option.bind_eq_some_iff.1 h
  split at h
  · rename_i hp
    rw [result_compileFile_of_after (Result.toOption_eq_some.1 hl) (Result.toOption_eq_some.1 hn),
      Loading.visitAll_nil (List.isEmpty_iff.1 hp)]
    exact Result.toOption_eq_some.1 h
  · cases h

/-- The fault of a compilation, if the fault is met when it begins or in the first `n` visits. -/
def failedWithin (files : Files) (options : Options) (path : Path) (n : Nat) : Option Fault :=
  match (begin options path (files path)).result >>= Loading.after files options.limits n with
  | .ok _ => none
  | .error f => some f

theorem compileFile_of_failedWithin {files : Files} {options : Options} {path : Path} {n : Nat} {f : Fault}
    (h : failedWithin files options path n = some f) : (compileFile files options path).result = .error f := by
  unfold failedWithin at h
  split at h
  · cases h
  · rename_i f' hf
    cases h
    rw [compileFile_eq, Traced.result_bind]
    rcases hl : (begin options path (files path)).result with e | l
    · rw [hl] at hf
      cases hf
      rfl
    · rw [hl, Result.ok_bind] at hf
      rw [Result.ok_bind, Traced.result_bind, Loading.result_visitAll_of_error hf]
      rfl

/-- What is computed from the schema of a compilation is told of the compilation itself. -/
theorem exists_compileFile {files : Files} {options : Options} {path : Path} {n : Nat} {α : Type} {f : Schema → α}
    {a : α} (h : (compiledWithin files options path n).map f = some a) :
    ∃ s, (compileFile files options path).result = .ok s ∧ f s = a := by
  obtain ⟨s, hs, hf⟩ := Option.map_eq_some_iff.1 h
  exact ⟨s, compileFile_of_compiledWithin hs, hf⟩

end SchemaHints.Schema
