/-
The current directory. A relative path says the same as the path that the current directory and it make up
together. The one exception is the empty path. It leads nowhere, while together with the directory it leads to the
directory, which cannot be read either.

So a document in the current directory and a text without a place refer to the same documents, though by different
paths.
-/
import SchemaHints.FileTree
import SchemaHints.Schema.Loading

namespace SchemaHints

/-- A file system that works in a directory: a relative path may be joined to that directory, except that the empty
path leads nowhere, and that the directory itself cannot be read. -/
structure FileSystem.WorksIn (fs : FileSystem) (directory : Path) : Prop where
  join : ∀ path, path.bytes ≠ [] → fs.canonicalize (directory.join path) = fs.canonicalize path
  empty : ∃ reason, fs.canonicalize ⟨[]⟩ = .error reason
  unreadable : ∀ file, fs.canonicalize (directory.join ⟨[]⟩) = .ok file → ∃ reason, fs.read file = .error reason

/-! ## The components of a joined path -/

namespace Path

theorem components_append (as bs : Bytes) :
    (⟨as ++ 0x2F :: bs⟩ : Path).components = (⟨as⟩ : Path).components ++ (⟨bs⟩ : Path).components :=
  List.splitOn_append_cons_self as bs

theorem join_of_absolute {base location : Path} (h : location.isAbsolute = true) : base.join location = location :=
  if_pos h

theorem join_of_relative {base location : Path} (h : location.isAbsolute = false) :
    base.join location = match base.bytes.getLast? with
      | none | some 0x2F => ⟨base.bytes ++ location.bytes⟩
      | some _ => ⟨base.bytes ++ 0x2F :: location.bytes⟩ :=
  if_neg (by rw [h]; exact Bool.false_ne_true)

/-- A relative path comes after the directory; a slash at the end of the directory is not another component. -/
theorem components_join {base location : Path} (hbase : base.bytes ≠ []) (h : location.isAbsolute = false) :
    (base.join location).components = base.components ++ location.components ∨
      ∃ start, base.components = start ++ [[]] ∧ (base.join location).components = start ++ location.components := by
  rw [join_of_relative h]
  split
  · exact absurd (List.getLast?_eq_none_iff.1 ‹_›) hbase
  · rename_i hlast
    obtain ⟨start, hstart⟩ := List.getLast?_eq_some_iff.1 hlast
    have hcomponents : base.components = (⟨start⟩ : Path).components ++ [[]] := by
      show (⟨base.bytes⟩ : Path).components = _
      rw [hstart, components_append]
      rfl
    refine .inr ⟨_, hcomponents, ?_⟩
    rw [hstart, List.append_assoc]
    exact components_append _ _
  · exact .inl (components_append _ _)

theorem isAbsolute_append {as bs : Bytes} (h : (⟨as⟩ : Path).isAbsolute = true) :
    (⟨as ++ bs⟩ : Path).isAbsolute = true := by
  cases as with
  | nil => cases h
  | cons a as => exact h

theorem isAbsolute_join {base location : Path} (h : base.isAbsolute = true) :
    (base.join location).isAbsolute = true := by
  unfold join
  split
  · assumption
  · split <;> exact isAbsolute_append h

/-- A joined path has the bytes of both, and perhaps a slash. -/
theorem contains_join {base location : Path} {b : UInt8} (hb : b ≠ 0x2F) (h : location.isAbsolute = false) :
    (base.join location).bytes.contains b = (base.bytes.contains b || location.bytes.contains b) := by
  have hslash : (b == 0x2F) = false := beq_false_of_ne hb
  rw [join_of_relative h]
  split <;> simp [hb]

end Path

/-! ## File trees -/

namespace FileTree

/-- The current directory. -/
def directory (t : FileTree) : Path := .ofComponents t.current

/-- The current directory is where its own path leads. -/
def Stands (t : FileTree) : Prop := t.place t.directory = .ok t.current

/-- A component of a path that names a file or directory. -/
structure IsName (component : Bytes) : Prop where
  ne_nil : component ≠ []
  ne_dot : component ≠ [0x2E]
  ne_dots : component ≠ [0x2E, 0x2E]
  length : component.length ≤ 255
  noNul : 0 ∉ component
  noSlash : 0x2F ∉ component

variable {t : FileTree}

/-- The current directory and those above it are directories. -/
theorem node?_of_above {place : List Bytes} (h : place <+: t.current) : t.node? place = some .directory := by
  unfold node?
  rw [if_pos (by simp [h])]

theorem node?_current (t : FileTree) : t.node? t.current = some .directory := node?_of_above (List.prefix_refl _)

/-- An empty component stays where it is. -/
theorem eq_of_goDown_nil {place place' : List Bytes} (h : t.goDown place [] = .ok place') : place' = place := by
  unfold goDown at h
  split at h
  · rw [if_neg (by simp)] at h
    split at h
    · exact (Except.ok.inj h).symm
    · cases h
  · cases h
  · cases h

theorem goDown_nil_current (t : FileTree) : t.goDown t.current [] = .ok t.current := by
  have hnext : next t.current [] = t.current := if_pos (.inl rfl)
  unfold goDown
  rw [node?_current]
  simp [hnext, node?_current]

theorem isAbsolute_directory (t : FileTree) : t.directory.isAbsolute = true := by
  unfold directory Path.ofComponents
  cases t.current with
  | nil => rfl
  | cons component rest => rfl

theorem directory_ne_nil (t : FileTree) : t.directory.bytes ≠ [] := by
  intro h
  have habsolute := isAbsolute_directory t
  unfold Path.isAbsolute at habsolute
  rw [h] at habsolute
  cases habsolute

/-- A path is followed component by component, if there is one and it holds no zero byte. -/
theorem place_eq_ok_iff {path : Path} {place : List Bytes} : t.place path = .ok place ↔
    path.bytes ≠ [] ∧ path.bytes.contains 0 = false ∧ path.components.foldlM t.goDown (t.startOf path) = .ok place := by
  unfold FileTree.place
  split
  · rename_i h
    exact ⟨nofun, fun hand => absurd h hand.1⟩
  split
  · rename_i h
    exact ⟨nofun, fun hand => absurd (h.symm.trans hand.2.1) nofun⟩
  · rename_i hbytes hzero
    exact ⟨fun h => ⟨hbytes, Bool.eq_false_iff.2 hzero, h⟩, fun h => h.2.2⟩

theorem components_flatMap {components : List Bytes} (h : ∀ c ∈ components, (0x2F : UInt8) ∉ c) :
    (⟨components.flatMap (0x2F :: ·)⟩ : Path).components = [] :: components := by
  have hafter (start : Bytes) (hstart : (0x2F : UInt8) ∉ start) :
      (⟨start ++ components.flatMap (0x2F :: ·)⟩ : Path).components = start :: components := by
    induction components generalizing start with
    | nil =>
      rw [List.flatMap_nil, List.append_nil]
      exact List.splitOn_eq_singleton hstart
    | cons c components ih =>
      obtain ⟨hc, hrest⟩ := List.forall_mem_cons.1 h
      rw [List.flatMap_cons, List.cons_append, Path.components_append, ih hrest c hc]
      exact congrArg (· ++ c :: components) (List.splitOn_eq_singleton hstart)
  exact hafter [] List.not_mem_nil

/-- Names lead from a directory above the current one down to it. -/
theorem foldlM_goDown_names {place components : List Bytes} (h : ∀ c ∈ components, IsName c)
    (hcurrent : place ++ components = t.current) : components.foldlM t.goDown place = .ok t.current := by
  induction components generalizing place with
  | nil => exact congrArg Except.ok ((List.append_nil place).symm.trans hcurrent)
  | cons c components ih =>
    obtain ⟨hc, hrest⟩ := List.forall_mem_cons.1 h
    have hcurrent' : (place ++ [c]) ++ components = t.current := by rw [← hcurrent, List.append_assoc]; rfl
    have hnext : next place c = place ++ [c] := by
      unfold next
      rw [if_neg (not_or.2 ⟨hc.ne_nil, hc.ne_dot⟩), if_neg hc.ne_dots]
    have hdown : t.goDown place c = .ok (place ++ [c]) := by
      unfold goDown
      rw [node?_of_above ⟨_, hcurrent⟩, hnext, node?_of_above ⟨_, hcurrent'⟩]
      exact if_neg (Nat.not_lt.2 hc.length)
    rw [List.foldlM_cons, hdown]
    exact ih hrest hcurrent'

/-- A current directory whose path is made of names stands where its path leads. -/
theorem stands_of_isName (h : ∀ c ∈ t.current, IsName c) : t.Stands := by
  refine place_eq_ok_iff.2 ⟨directory_ne_nil t, ?_, ?_⟩
  · unfold directory Path.ofComponents
    split
    · rfl
    · simp only [List.contains_eq_mem, decide_eq_false_iff_not, List.mem_flatMap, not_exists, not_and]
      rintro c hc hzero
      rcases List.mem_cons.1 hzero with hslash | hzero
      · exact absurd hslash (by decide)
      · exact (h c hc).noNul hzero
  · have hroot : t.goDown [] [] = .ok [] := by
      unfold goDown
      rw [node?_of_above (List.nil_prefix ..)]
      simp [next, node?_of_above (List.nil_prefix (l := t.current))]
    have hnames : t.current.foldlM t.goDown [] = .ok t.current := foldlM_goDown_names h rfl
    rw [startOf, if_pos (isAbsolute_directory t)]
    unfold directory Path.ofComponents
    split
    · rename_i hempty
      rw [List.isEmpty_iff.1 hempty]
      show (t.goDown [] [] >>= fun place => t.goDown place [] >>= pure) = _
      rw [hroot]
      exact (bind_pure (t.goDown [] [])).trans hroot
    · rw [components_flatMap fun c hc => (h c hc).noSlash, List.foldlM_cons, hroot]
      exact hnames

/-- The components of a relative path below the current directory lead where they lead from there. -/
theorem Stands.foldlM_join (h : t.Stands) {location : Path} (hrelative : location.isAbsolute = false) :
    (t.directory.join location).components.foldlM t.goDown [] = location.components.foldlM t.goDown t.current := by
  obtain ⟨-, -, hcomponents⟩ := place_eq_ok_iff.1 h
  rw [startOf, if_pos (isAbsolute_directory t)] at hcomponents
  rcases Path.components_join (directory_ne_nil t) hrelative with hjoin | ⟨start, hstart, hjoin⟩
  · rw [hjoin, List.foldlM_append, hcomponents]
    rfl
  · rw [hstart, List.foldlM_append] at hcomponents
    rw [hjoin, List.foldlM_append]
    rcases hplace : start.foldlM t.goDown [] with reason | place
    · rw [hplace] at hcomponents
      cases hcomponents
    -- the directory ends in an empty component, which leads nowhere else
    · rw [hplace] at hcomponents
      have hlast : t.goDown place [] = .ok t.current := (bind_pure (t.goDown place [])).symm.trans hcomponents
      rw [eq_of_goDown_nil hlast]
      rfl

/-- A path below the current directory leads where it leads from there. -/
theorem Stands.place_join (h : t.Stands) {location : Path} (hlocation : location.bytes ≠ []) :
    t.place (t.directory.join location) = t.place location := by
  cases habsolute : location.isAbsolute with
  | true => rw [Path.join_of_absolute habsolute]
  | false =>
    obtain ⟨-, hzero, -⟩ := place_eq_ok_iff.1 h
    have habsolute' : (t.directory.join location).isAbsolute = true := Path.isAbsolute_join (isAbsolute_directory t)
    have hjoined : (t.directory.join location).bytes ≠ [] := by
      intro hnil
      rw [Path.isAbsolute, hnil] at habsolute'
      cases habsolute'
    have hstart : t.startOf (t.directory.join location) = [] := if_pos habsolute'
    have hstart' : t.startOf location = t.current := if_neg (by rw [habsolute]; exact Bool.false_ne_true)
    unfold FileTree.place
    rw [if_neg hjoined, if_neg hlocation, Path.contains_join (by decide) habsolute, hzero, Bool.false_or, hstart,
      hstart', h.foldlM_join habsolute]

/-- The current directory cannot be read. -/
theorem Stands.read_directory (h : t.Stands) : ∃ reason, t.read t.directory = .error reason := by
  unfold FileTree.read
  split
  · exact ⟨_, rfl⟩
  split
  · exact ⟨_, rfl⟩
  · have hplace : t.place t.directory = .ok t.current := h
    refine ⟨.isDirectory, ?_⟩
    simp only [hplace, bind, Except.bind, node?_current]

theorem canonicalize_eq_ok_iff {path file : Path} :
    t.canonicalize path = .ok file ↔ ∃ place, t.place path = .ok place ∧ Path.ofComponents place = file := by
  unfold canonicalize
  cases t.place path with
  | error reason =>
    constructor
    · intro h
      cases h
    · rintro ⟨_, h, -⟩
      cases h
  | ok place =>
    constructor
    · exact fun h => ⟨place, rfl, Except.ok.inj h⟩
    · rintro ⟨_, h, rfl⟩
      cases h
      rfl

/-- A file tree works in its current directory, if that stands where its path leads. -/
theorem Stands.worksIn (h : t.Stands) : t.fileSystem.WorksIn t.directory where
  join path hpath := by
    show Path.ofComponents <$> t.place (t.directory.join path) = Path.ofComponents <$> t.place path
    rw [h.place_join hpath]
  empty := ⟨.missing, rfl⟩
  unreadable := by
    intro file hfile
    have hrelative : (⟨[]⟩ : Path).isAbsolute = false := rfl
    have hcomponents : (t.directory.join ⟨[]⟩).components.foldlM t.goDown [] = .ok t.current := by
      rw [h.foldlM_join hrelative]
      exact (bind_pure (t.goDown t.current [])).trans (goDown_nil_current t)
    obtain ⟨place, hplace, rfl⟩ := canonicalize_eq_ok_iff.1 hfile
    obtain ⟨-, -, hplace⟩ := place_eq_ok_iff.1 hplace
    rw [startOf, if_pos (Path.isAbsolute_join (isAbsolute_directory t)), hcomponents] at hplace
    cases hplace
    exact h.read_directory

end FileTree

end SchemaHints
