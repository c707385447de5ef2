/-
The walk as a list of particles. What a walk tells on its way, and the ends of the levels of nesting
in its tasks, leave no mark on its result: what counts is the particles that are still to be visited
and the groups that have been entered.

Each particle yields declarations of its own, or refers to nothing, or is not modelled. A result lists
a set of particles when it fails exactly if one of them does not resolve, and otherwise holds what
they yield. Lists of parts make up the list of the whole, which is how a walk is shown to list what it
reaches.
-/
import SchemaHints.Proofs.Walk.Reach

namespace SchemaHints.Schema

/-! ## Particles by themselves -/

/-- The declarations that a particle that is no group yields. -/
def leafDeclarations (s : Schema) : Particle → Result (List ElementDecl)
  | .elementRef n => do
    let declaration ← s.globalElement n
    .ok (declaration :: s.substitutionMembers declaration)
  | .localElement declaration => .ok [declaration]
  | .unsupported tag => fail (.unsupportedParticle tag)
  | .group .. | .groupRef _ | .any | .empty => .ok []

/-- A particle that is modelled and refers to what is defined. -/
def Resolves (s : Schema) : Particle → Prop
  | .groupRef n => ∃ p, s.namedGroup n = .ok p
  | .elementRef n => ∃ d, s.globalElement n = .ok d
  | .unsupported _ => False
  | _ => True

/-- The declarations that a particle yields, apart from those of the particles inside it: a reference
stands for the element and for all that may take its place. -/
def Yields (s : Schema) : Particle → ElementDecl → Prop
  | .localElement declaration, d => d = declaration
  | .elementRef n, d => ∃ head, s.globalElement n = .ok head ∧ (d = head ∨ d ∈ s.substitutionMembers head)
  | _, _ => False

/-- A result that fails exactly when a particle among `P` does not resolve, and otherwise holds the
declarations that the particles among `P` yield. -/
structure Lists (s : Schema) (P : Particle → Prop) (r : Result (List ElementDecl)) : Prop where
  ok_iff : (∃ ds, r = .ok ds) ↔ ∀ q, P q → s.Resolves q
  mem_iff : ∀ ds, r = .ok ds → ∀ d, d ∈ ds ↔ ∃ q, P q ∧ s.Yields q d

/-- Two lists one after the other, unless the first fails, or the second. -/
def joined (x y : Result (List ElementDecl)) : Result (List ElementDecl) := do
  let ds ← x
  let es ← y
  .ok (ds ++ es)

theorem joined_eq_ok_iff {x y : Result (List ElementDecl)} {both : List ElementDecl} :
    joined x y = .ok both ↔ ∃ ds es, x = .ok ds ∧ y = .ok es ∧ ds ++ es = both := by
  constructor
  · intro h
    obtain ⟨ds, hds, h⟩ := Result.bind_eq_ok.1 h
    obtain ⟨es, hes, h⟩ := Result.bind_eq_ok.1 h
    cases h
    exact ⟨ds, es, hds, hes, rfl⟩
  · rintro ⟨ds, es, rfl, rfl, rfl⟩
    rfl

theorem joined_assoc (x y z : Result (List ElementDecl)) :
    joined (joined x y) z = joined x (joined y z) := by
  rcases x with e | ds
  · rfl
  rcases y with e | es
  · rfl
  rcases z with e | fs
  · rfl
  · exact congrArg Except.ok (List.append_assoc ds es fs)

theorem joined_nil (x : Result (List ElementDecl)) : joined x (.ok []) = x := by
  rcases x with e | ds
  · rfl
  · exact congrArg Except.ok (List.append_nil ds)

theorem nil_joined (x : Result (List ElementDecl)) : joined (.ok []) x = x := by
  cases x <;> rfl

variable {s : Schema}

namespace Lists

theorem of_iff {P Q : Particle → Prop} {r : Result (List ElementDecl)} (h : s.Lists P r)
    (hPQ : ∀ q, Q q ↔ P q) : s.Lists Q r := by
  obtain rfl : Q = P := funext fun q => propext (hPQ q)
  exact h

theorem nothing {P : Particle → Prop} (hP : ∀ q, ¬ P q) : s.Lists P (.ok []) := by
  refine ⟨⟨fun _ q hq => absurd hq (hP q), fun _ => ⟨[], rfl⟩⟩, ?_⟩
  rintro ds ⟨⟩ d
  exact ⟨fun hd => absurd hd List.not_mem_nil, fun ⟨q, hq, _⟩ => absurd hq (hP q)⟩

theorem failed {P : Particle → Prop} {q : Particle} {e : Fault} (hq : P q) (hr : ¬ s.Resolves q) :
    s.Lists P (.error e) := by
  constructor
  · constructor
    · rintro ⟨ds, ⟨⟩⟩
    · exact fun h => absurd (h q hq) hr
  · rintro ds ⟨⟩

/-- A single particle is listed by what it yields. -/
theorem single {p : Particle} {r : Result (List ElementDecl)} (hr : (∃ ds, r = .ok ds) ↔ s.Resolves p)
    (hy : ∀ ds, r = .ok ds → ∀ d, d ∈ ds ↔ s.Yields p d) : s.Lists (· = p) r := by
  constructor
  · rw [hr]
    constructor
    · rintro hp q rfl
      exact hp
    · exact fun h => h p rfl
  · intro ds hds d
    rw [hy ds hds d]
    constructor
    · exact fun hd => ⟨p, rfl, hd⟩
    · rintro ⟨q, rfl, hd⟩
      exact hd

/-- One list after another lists both. -/
theorem joined {P Q : Particle → Prop} {x y : Result (List ElementDecl)} (hx : s.Lists P x)
    (hy : s.Lists Q y) : s.Lists (fun q => P q ∨ Q q) (joined x y) := by
  constructor
  · constructor
    · rintro ⟨_, h⟩ q hq
      obtain ⟨ds, es, hds, hes, -⟩ := joined_eq_ok_iff.1 h
      rcases hq with hq | hq
      · exact hx.ok_iff.1 ⟨ds, hds⟩ q hq
      · exact hy.ok_iff.1 ⟨es, hes⟩ q hq
    · intro h
      obtain ⟨ds, hds⟩ := hx.ok_iff.2 fun q hq => h q (.inl hq)
      obtain ⟨es, hes⟩ := hy.ok_iff.2 fun q hq => h q (.inr hq)
      exact ⟨ds ++ es, joined_eq_ok_iff.2 ⟨ds, es, hds, hes, rfl⟩⟩
  · intro both h d
    obtain ⟨ds, es, hds, hes, rfl⟩ := joined_eq_ok_iff.1 h
    rw [List.mem_append, hx.mem_iff ds hds, hy.mem_iff es hes]
    constructor
    · rintro (⟨q, hq, hd⟩ | ⟨q, hq, hd⟩)
      · exact ⟨q, .inl hq, hd⟩
      · exact ⟨q, .inr hq, hd⟩
    · rintro ⟨q, hq | hq, hd⟩
      · exact .inl ⟨q, hq, hd⟩
      · exact .inr ⟨q, hq, hd⟩

/-- A particle that resolves and yields nothing may be added. -/
theorem insert {P : Particle → Prop} {p : Particle} {r : Result (List ElementDecl)} (h : s.Lists P r)
    (hp : s.Resolves p) (hy : ∀ d, ¬ s.Yields p d) : s.Lists (fun q => q = p ∨ P q) r := by
  constructor
  · rw [h.ok_iff]
    constructor
    · rintro h q (rfl | hq)
      · exact hp
      · exact h q hq
    · exact fun h q hq => h q (.inr hq)
  · intro ds hds d
    rw [h.mem_iff ds hds]
    constructor
    · rintro ⟨q, hq, hd⟩
      exact ⟨q, .inr hq, hd⟩
    · rintro ⟨q, rfl | hq, hd⟩
      · exact absurd hd (hy d)
      · exact ⟨q, hq, hd⟩

end Lists

theorem not_resolves_groupRef {n : Name} (h : s.groups.get? n = none) : ¬ s.Resolves (.groupRef n) := by
  rintro ⟨p, hp⟩
  rw [find_eq_ok_iff.1 hp] at h
  cases h

/-- A particle that is no group is listed by its own declarations. -/
theorem lists_leaf {p : Particle} (hp : p.IsLeaf) : s.Lists (· = p) (s.leafDeclarations p) := by
  have hsilent {q : Particle} (hq : s.Resolves q) (hy : ∀ d, ¬ s.Yields q d) : s.Lists (· = q) (.ok []) := by
    refine .single ⟨fun _ => hq, fun _ => ⟨[], rfl⟩⟩ ?_
    rintro ds ⟨⟩ d
    exact ⟨fun hd => absurd hd List.not_mem_nil, fun hd => absurd hd (hy d)⟩
  cases p with
  | group compositor items => exact hp.elim
  | groupRef n => exact hp.elim
  | any => exact hsilent trivial fun _ => id
  | empty => exact hsilent trivial fun _ => id
  | unsupported tag => exact .failed rfl id
  | localElement declaration =>
    refine .single ⟨fun _ => trivial, fun _ => ⟨[declaration], rfl⟩⟩ ?_
    rintro ds ⟨⟩ d
    exact List.mem_singleton
  | elementRef n =>
    rcases hn : s.globalElement n with e | head
    · rw [leafDeclarations, hn]
      exact .failed rfl fun ⟨d, hd⟩ => by rw [hn] at hd; cases hd
    · rw [leafDeclarations, hn]
      refine .single ⟨fun _ => ⟨head, hn⟩, fun _ => ⟨_, rfl⟩⟩ ?_
      rintro ds ⟨⟩ d
      simp only [List.mem_cons, Yields, hn, Except.ok.injEq, exists_eq_left']

/-! ## Gathering -/

/-- The declarations that particles lead to when the groups in `entered` have been entered already. -/
def gather (s : Schema) (entered : List Name) (ps : List Particle) : Result (List ElementDecl) :=
  match ps with
  | [] => .ok []
  | .group _ items :: rest => s.gather entered (items ++ rest)
  | .groupRef n :: rest =>
    if _hn : n ∈ entered then s.gather entered rest
    else match _h : s.groups.get? n with
      | none => fail (.undefined .groups n)
      | some p => s.gather (n :: entered) (p :: rest)
  | p :: rest => joined (s.leafDeclarations p) (s.gather entered rest)
termination_by (unvisited s.groups entered, stepsOfAll ps)
decreasing_by
  · refine Prod.Lex.right _ ?_
    rw [stepsOfAll_append]
    simp only [stepsOfAll, Particle.steps]
    omega
  · exact Prod.Lex.right _ (by simp only [stepsOfAll, Particle.steps]; omega)
  · exact Prod.Lex.left _ _ (unvisited_lt _h _hn)
  · refine Prod.Lex.right _ ?_
    have := Particle.steps_pos p
    simp only [stepsOfAll]
    omega

theorem gather_nil (entered : List Name) : s.gather entered [] = .ok [] := by rw [gather]

theorem gather_group (entered : List Name) (compositor : Compositor) (items rest : List Particle) :
    s.gather entered (.group compositor items :: rest) = s.gather entered (items ++ rest) := by
  rw [gather]

theorem gather_closed {entered : List Name} {n : Name} (hn : n ∈ entered) (rest : List Particle) :
    s.gather entered (.groupRef n :: rest) = s.gather entered rest := by
  rw [gather, dif_pos hn]

theorem gather_undefined {entered : List Name} {n : Name} (hn : n ∉ entered)
    (hp : s.groups.get? n = none) (rest : List Particle) :
    s.gather entered (.groupRef n :: rest) = fail (.undefined .groups n) := by
  rw [gather, dif_neg hn]
  split
  · rfl
  · rename_i h; rw [hp] at h; cases h

theorem gather_groupRef {entered : List Name} {n : Name} {p : Particle} (hn : n ∉ entered)
    (hp : s.groups.get? n = some p) (rest : List Particle) :
    s.gather entered (.groupRef n :: rest) = s.gather (n :: entered) (p :: rest) := by
  rw [gather, dif_neg hn]
  split
  · rename_i h; rw [hp] at h; cases h
  · rename_i h; rw [hp] at h; cases h; rfl

theorem gather_leaf {p : Particle} (hp : p.IsLeaf) (entered : List Name) (rest : List Particle) :
    s.gather entered (p :: rest) = joined (s.leafDeclarations p) (s.gather entered rest) := by
  cases p <;> first | exact hp.elim | rw [gather] <;> nofun

theorem gather_silent {p : Particle} (hp : p.IsLeaf) (hs : s.leafDeclarations p = .ok [])
    (entered : List Name) (rest : List Particle) : s.gather entered (p :: rest) = s.gather entered rest := by
  rw [gather_leaf hp, hs, nil_joined]

/-- What is gathered from particles lists what they lead to outside the groups already entered. -/
theorem lists_gather {entered : List Name} {ps : List Particle}
    (he : ∀ n ∈ entered, s.Resolves (.groupRef n)) :
    s.Lists (s.ReachedFrom entered ps) (s.gather entered ps) := by
  fun_induction gather s entered ps with
  | case1 entered => exact .nothing fun _ => not_reachedFrom_nil
  | case2 entered compositor items rest ih =>
    have hgroup : s.Resolves (.group compositor items) := trivial
    refine ((ih he).insert hgroup fun _ => id).of_iff fun q => ?_
    rw [reachedFrom_cons, reachedFrom_group, reachedFrom_append, or_assoc]
  | case3 entered n rest hn ih =>
    refine ((ih he).insert (he n hn) fun _ => id).of_iff fun q => ?_
    rw [reachedFrom_cons, reachedFrom_closed hn]
  | case4 entered n rest hn hp =>
    exact .failed (.start (List.mem_cons_self ..)) (not_resolves_groupRef hp)
  -- the group is entered for the first time: closing it loses nothing, since its content comes next
  | case5 entered n rest hn p hp ih =>
    have hgroup : s.Resolves (.groupRef n) := ⟨p, find_eq_ok_iff.2 hp⟩
    have he' : ∀ m ∈ n :: entered, s.Resolves (.groupRef m) := List.forall_mem_cons.2 ⟨hgroup, he⟩
    exact ((ih he').insert hgroup fun _ => id).of_iff fun q => reachedFrom_groupRef hn hp
  | case6 entered p rest hg hr ih =>
    have hp : p.IsLeaf := isLeaf_of_not_group hg hr
    refine ((lists_leaf hp).joined (ih he)).of_iff fun q => ?_
    rw [reachedFrom_cons, reachedFrom_leaf hp]

/-! ## The walk as a list of particles -/

/-- The particles that tasks are still to visit. -/
def visits (todo : List Task) : List Particle :=
  todo.filterMap fun | .visit p => some p | .leave => none

theorem visits_visit (p : Particle) (todo : List Task) : visits (.visit p :: todo) = p :: visits todo := rfl

theorem visits_groupTasks (items : List Particle) (todo : List Task) :
    visits (groupTasks items todo) = items ++ visits todo := by
  rw [visits, groupTasks, List.filterMap_append, List.filterMap_map]
  congr 1
  exact List.filterMap_some

/-- A walk gives what is gathered from the particles that are still to visit. -/
theorem result_walkTasks (s : Schema) (entered : List Name) (todo : List Task) :
    (s.walkTasks entered todo).result = s.gather entered (visits todo) := by
  fun_induction walkTasks s entered todo with
  | case1 => exact gather_nil _ |>.symm
  | case2 entered rest ih => exact ih
  | case3 entered compositor items rest ih =>
    rw [visits_visit, gather_group, ← visits_groupTasks]
    exact ih
  | case4 entered n rest hn ih =>
    rw [visits_visit, gather_closed hn]
    exact ih
  | case5 entered n rest hn hp =>
    rw [visits_visit, gather_undefined hn hp]
    rfl
  | case6 entered n rest hn p hp ih =>
    rw [visits_visit, gather_groupRef hn hp]
    exact ih.trans (congrArg _ (visits_groupTasks ..))
  | case7 entered n rest e hd =>
    rw [visits_visit, gather_leaf (p := .elementRef n) trivial, leafDeclarations, hd]
    rfl
  | case8 entered n rest declaration hd ih =>
    rw [visits_visit, gather_leaf (p := .elementRef n) trivial, leafDeclarations, hd, ← ih]
    simp only [Traced.result_bind, Traced.result_lines]
    rfl
  | case9 entered declaration rest ih =>
    rw [visits_visit, gather_leaf (p := .localElement declaration) trivial, leafDeclarations, ← ih,
      Traced.result_bind]
    rfl
  | case10 entered rest ih => exact ih.trans (gather_silent (p := .any) trivial rfl _ _).symm
  | case11 entered rest ih => exact ih.trans (gather_silent (p := .empty) trivial rfl _ _).symm
  | case12 entered tag rest =>
    rw [visits_visit, gather_leaf (p := .unsupported tag) trivial]
    rfl

theorem result_walk (s : Schema) (p : Particle) : (s.walk p).result = s.gather [] [p] :=
  result_walkTasks s [] [.visit p]

/-! ## What a walk finds -/

/-- A walk lists the particles that its particle leads to. -/
theorem lists_walk (s : Schema) (p : Particle) : s.Lists (s.Reaches p) (s.walk p).result := by
  rw [result_walk]
  exact (lists_gather fun n hn => absurd hn List.not_mem_nil).of_iff fun q => reaches_iff

theorem forall_resolves_iff {P : Particle → Prop} :
    (∀ q, P q → s.Resolves q) ↔ (∀ tag, ¬ P (.unsupported tag)) ∧
      (∀ n, P (.groupRef n) → ∃ q, s.namedGroup n = .ok q) ∧
      ∀ n, P (.elementRef n) → ∃ d, s.globalElement n = .ok d := by
  constructor
  · exact fun h => ⟨fun tag => h _, fun n => h _, fun n => h _⟩
  · rintro ⟨hunsupported, hgroups, helements⟩ q hq
    cases q with
    | unsupported tag => exact hunsupported tag hq
    | groupRef n => exact hgroups n hq
    | elementRef n => exact helements n hq
    | _ => exact trivial

theorem exists_yields_iff {P : Particle → Prop} {d : ElementDecl} :
    (∃ q, P q ∧ s.Yields q d) ↔ P (.localElement d) ∨
      ∃ n head, P (.elementRef n) ∧ s.globalElement n = .ok head ∧
        (d = head ∨ d ∈ s.substitutionMembers head) := by
  constructor
  · rintro ⟨q, hq, hd⟩
    cases q with
    | localElement declaration =>
      obtain rfl : d = declaration := hd
      exact .inl hq
    | elementRef n =>
      obtain ⟨head, hn, hd⟩ := hd
      exact .inr ⟨n, head, hq, hn, hd⟩
    | _ => exact hd.elim
  · rintro (hq | ⟨n, head, hq, hn, hd⟩)
    · exact ⟨_, hq, rfl⟩
    · exact ⟨_, hq, head, hn, hd⟩

/-- A walk succeeds exactly when all that its particle leads to is modelled and defined. It then gives
the local declarations among these, the elements referred to, and all that may take their place, and
nothing else. -/
theorem walk_exact (s : Schema) (p : Particle) :
    ((∃ ds, (s.walk p).result = .ok ds) ↔
      (∀ tag, ¬ s.Reaches p (.unsupported tag)) ∧
      (∀ n, s.Reaches p (.groupRef n) → ∃ q, s.namedGroup n = .ok q) ∧
      ∀ n, s.Reaches p (.elementRef n) → ∃ d, s.globalElement n = .ok d) ∧
    ∀ ds, (s.walk p).result = .ok ds → ∀ d, d ∈ ds ↔
      s.Reaches p (.localElement d) ∨
      ∃ n head, s.Reaches p (.elementRef n) ∧ s.globalElement n = .ok head ∧
        (d = head ∨ d ∈ s.substitutionMembers head) := by
  have h := lists_walk s p
  refine ⟨h.ok_iff.trans forall_resolves_iff, fun ds hds d => ?_⟩
  rw [h.mem_iff ds hds, exists_yields_iff]

end SchemaHints.Schema
