/-
Cutting cycles on the path alone. A walk could leave a group out only inside its own content and walk
it again everywhere else. It would give the same declarations many times over, but each name for the
first time at the same place, and it would fail at the same particle.

The two are compared place by place: what is left to visit is a list of particles, each with the
groups that it stands in. The invariant is that of depth-first search: at each place, the groups that
have been entered and that the place does not stand in lead only to what will have been given by then.
-/
import SchemaHints.Proofs.Walk.Gather
import SchemaHints.Shape.Extract

namespace SchemaHints.Schema

/-! ## The walk with a path -/

/-- The declarations that particles lead to when a group is left out only inside its own content; the
particles stand in the groups in `stack`. -/
def pathGather (s : Schema) (stack : List Name) (ps : List Particle) : Result (List ElementDecl) :=
  match ps with
  | [] => .ok []
  | .group _ items :: rest => joined (s.pathGather stack items) (s.pathGather stack rest)
  | .groupRef n :: rest =>
    if _hn : n ∈ stack then s.pathGather stack rest
    else match _h : s.groups.get? n with
      | none => fail (.undefined .groups n)
      | some p => joined (s.pathGather (n :: stack) [p]) (s.pathGather stack rest)
  | p :: rest => joined (s.leafDeclarations p) (s.pathGather stack rest)
termination_by (unvisited s.groups stack, stepsOfAll ps)
decreasing_by
  · exact Prod.Lex.right _ (by simp only [stepsOfAll, Particle.steps]; omega)
  · exact Prod.Lex.right _ (by simp only [stepsOfAll, Particle.steps]; omega)
  · exact Prod.Lex.right _ (by simp only [stepsOfAll, Particle.steps]; omega)
  · exact Prod.Lex.left _ _ (unvisited_lt _h _hn)
  · exact Prod.Lex.right _ (by simp only [stepsOfAll, Particle.steps]; omega)
  · refine Prod.Lex.right _ ?_
    have := Particle.steps_pos p
    simp only [stepsOfAll]
    omega

/-- The walk of a particle that leaves a group out only inside its own content. -/
def pathWalk (s : Schema) (p : Particle) : Result (List ElementDecl) := s.pathGather [] [p]

variable {s : Schema}

theorem pathGather_nil (stack : List Name) : s.pathGather stack [] = .ok [] := by rw [pathGather]

theorem pathGather_group (stack : List Name) (compositor : Compositor) (items : List Particle) :
    s.pathGather stack [.group compositor items] = s.pathGather stack items := by
  rw [pathGather, pathGather_nil, joined_nil]

theorem pathGather_undefined {stack : List Name} {n : Name} (hn : n ∉ stack)
    (hp : s.groups.get? n = none) : s.pathGather stack [.groupRef n] = fail (.undefined .groups n) := by
  rw [pathGather, dif_neg hn]
  split
  · rfl
  · rename_i h; rw [hp] at h; cases h

theorem pathGather_groupRef {stack : List Name} {n : Name} {p : Particle} (hn : n ∉ stack)
    (hp : s.groups.get? n = some p) :
    s.pathGather stack [.groupRef n] = s.pathGather (n :: stack) [p] := by
  rw [pathGather, dif_neg hn]
  split
  · rename_i h; rw [hp] at h; cases h
  · rename_i h; rw [hp] at h; cases h; rw [pathGather_nil, joined_nil]

theorem pathGather_leaf {p : Particle} (hp : p.IsLeaf) (stack : List Name) :
    s.pathGather stack [p] = s.leafDeclarations p := by
  cases p <;> first | exact hp.elim | rw [pathGather, pathGather_nil, joined_nil] <;> nofun

theorem pathGather_cons (stack : List Name) (p : Particle) (ps : List Particle) :
    s.pathGather stack (p :: ps) = joined (s.pathGather stack [p]) (s.pathGather stack ps) := by
  cases p with
  | group compositor items => rw [pathGather_group, pathGather]
  | groupRef n =>
    rw [pathGather, pathGather]
    split
    · rw [pathGather_nil, nil_joined]
    · split
      · rfl
      · rw [pathGather_nil, joined_nil]
  | _ => rw [pathGather_leaf, pathGather] <;> first | exact trivial | nofun

/-- What a walk with a path gives lists what the particles lead to outside the groups they stand in. -/
theorem lists_pathGather {stack : List Name} {ps : List Particle}
    (hs : ∀ n ∈ stack, s.Resolves (.groupRef n)) :
    s.Lists (s.ReachedFrom stack ps) (s.pathGather stack ps) := by
  fun_induction pathGather s stack ps with
  | case1 stack => exact .nothing fun _ => not_reachedFrom_nil
  | case2 stack compositor items rest ihi ihr =>
    have hgroup : s.Resolves (.group compositor items) := trivial
    refine (((ihi hs).joined (ihr hs)).insert hgroup fun _ => id).of_iff fun q => ?_
    rw [reachedFrom_cons, reachedFrom_group, or_assoc]
  | case3 stack n rest hn ih =>
    refine ((ih hs).insert (hs n hn) fun _ => id).of_iff fun q => ?_
    rw [reachedFrom_cons, reachedFrom_closed hn]
  | case4 stack n rest hn hp =>
    exact .failed (.start (List.mem_cons_self ..)) (not_resolves_groupRef hp)
  | case5 stack n rest hn p hp ihp ihr =>
    have hgroup : s.Resolves (.groupRef n) := ⟨p, find_eq_ok_iff.2 hp⟩
    have hs' : ∀ m ∈ n :: stack, s.Resolves (.groupRef m) := List.forall_mem_cons.2 ⟨hgroup, hs⟩
    refine (((ihp hs').joined (ihr hs)).insert hgroup fun _ => id).of_iff fun q => ?_
    rw [reachedFrom_cons, reachedFrom_groupRef hn hp, or_assoc]
  | case6 stack p rest hg hr ih =>
    have hp : p.IsLeaf := isLeaf_of_not_group hg hr
    refine ((lists_leaf hp).joined (ih hs)).of_iff fun q => ?_
    rw [reachedFrom_cons, reachedFrom_leaf hp]

/-! ## Places -/

/-- A particle that is still to be visited, and the groups that it stands in. -/
structure Place where
  stack : List Name
  particle : Particle

/-- The places of particles that stand in the same groups. -/
def placesIn (stack : List Name) (ps : List Particle) : List Place := ps.map (Place.mk stack)

theorem map_particle_placesIn (stack : List Name) (ps : List Particle) :
    (placesIn stack ps).map (·.particle) = ps := by
  rw [placesIn, List.map_map]
  exact List.map_id ps

/-- What the walk with a path gives at some places. -/
def pathGatherAll (s : Schema) : List Place → Result (List ElementDecl)
  | [] => .ok []
  | t :: todo => joined (s.pathGather t.stack [t.particle]) (s.pathGatherAll todo)

theorem pathGatherAll_placesIn (stack : List Name) (ps : List Particle) (todo : List Place) :
    s.pathGatherAll (placesIn stack ps ++ todo) = joined (s.pathGather stack ps) (s.pathGatherAll todo) := by
  induction ps with
  | nil => rw [pathGather_nil, nil_joined]; rfl
  | cons p ps ih =>
    rw [pathGather_cons, joined_assoc, ← ih]
    rfl

/-- A particle that resolves and yields no name but those in `names`. -/
def Spent (s : Schema) (names : List Name) (q : Particle) : Prop :=
  s.Resolves q ∧ ∀ d, s.Yields q d → d.name ∈ names

/-- The groups entered that a place does not stand in lead, there, only to particles in `done`. -/
def Finished (s : Schema) (entered : List Name) (done : Particle → Prop) (stack : List Name) : Prop :=
  ∀ n ∈ entered, n ∉ stack → ∀ p, s.groups.get? n = some p → ∀ q, s.ReachedFrom stack [p] q → done q

/-- The same at each of several places, when those before it are done. -/
def FinishedAt (s : Schema) (entered : List Name) : (Particle → Prop) → List Place → Prop
  | _, [] => True
  | done, t :: todo => s.Finished entered done t.stack ∧
    FinishedAt s entered (fun q => done q ∨ s.ReachedFrom t.stack [t.particle] q) todo

theorem FinishedAt.mono {entered : List Name} {done done' : Particle → Prop} {todo : List Place}
    (hd : ∀ q, done q → done' q) (h : s.FinishedAt entered done todo) : s.FinishedAt entered done' todo := by
  induction todo generalizing done done' with
  | nil => trivial
  | cons t todo ih =>
    obtain ⟨hhere, hrest⟩ := h
    exact ⟨fun n hn hs p hp q hq => hd q (hhere n hn hs p hp q hq), ih (fun q => Or.imp_left (hd q)) hrest⟩

/-- Particles in the place of a group are finished where the group was. -/
theorem FinishedAt.expand {entered stack : List Name} {done : Particle → Prop} {ps : List Particle}
    {todo : List Place} (hhere : s.Finished entered done stack)
    (hrest : s.FinishedAt entered (fun q => done q ∨ s.ReachedFrom stack ps q) todo) :
    s.FinishedAt entered done (placesIn stack ps ++ todo) := by
  induction ps generalizing done with
  | nil => exact hrest.mono fun q hq => hq.resolve_right not_reachedFrom_nil
  | cons p ps ih =>
    refine ⟨hhere, ih (fun n hn hs p hp q hq => .inl (hhere n hn hs p hp q hq)) (hrest.mono fun q hq => ?_)⟩
    rw [reachedFrom_cons, ← or_assoc] at hq
    exact hq

/-- What a particle leads to at a place is met on the way outside the groups in `stack`, or behind one
of these groups that the place does not stand in. -/
theorem ReachedFrom.behind {here : List Name} {p q : Particle} (h : s.ReachedFrom here [p] q)
    (stack : List Name) :
    s.ReachedFrom stack [p] q ∨ ∃ n ∈ stack, n ∉ here ∧ ∃ p', s.groups.get? n = some p' ∧
      s.ReachedFrom here [p'] q := by
  induction h with
  | start hq => exact .inl (.start hq)
  | member _ hq ih =>
    rcases ih with ih | ⟨n, hn, hh, p', hp', ih⟩
    · exact .inl (ih.member hq)
    · exact .inr ⟨n, hn, hh, p', hp', ih.member hq⟩
  | @content m q _ hm hq ih =>
    rcases ih with ih | ⟨n, hn, hh, p', hp', ih⟩
    -- entering a group in `stack` starts a way behind it
    · by_cases hms : m ∈ stack
      · exact .inr ⟨m, hms, hm, q, hq, .start (List.mem_singleton_self _)⟩
      · exact .inl (ih.content hms hq)
    · exact .inr ⟨n, hn, hh, p', hp', ih.content hm hq⟩

/-- A group that is entered at one place is finished at the later ones, once its content is done. -/
theorem Finished.enter {entered stack here : List Name} {done : Particle → Prop} {n : Name} {p : Particle}
    (h : s.Finished entered done here) (hs : ∀ m ∈ stack, m ∈ entered) (hp : s.groups.get? n = some p)
    (hd : ∀ q, s.ReachedFrom stack [p] q → done q) : s.Finished (n :: entered) done here := by
  intro m hm hh p' hp' q hq
  rcases List.mem_cons.1 hm with rfl | hm
  · rw [hp] at hp'
    cases hp'
    -- a way out of the groups being walked passes through one that the place has left
    rcases hq.behind stack with hq | ⟨k, hk, hkh, pk, hpk, hq⟩
    · exact hd q hq
    · exact h k (hs k hk) hkh pk hpk q hq
  · exact h m hm hh p' hp' q hq

theorem FinishedAt.enter {entered stack : List Name} {done : Particle → Prop} {n : Name} {p : Particle}
    {todo : List Place} (h : s.FinishedAt entered done todo) (hs : ∀ m ∈ stack, m ∈ entered)
    (hp : s.groups.get? n = some p) (hd : ∀ q, s.ReachedFrom stack [p] q → done q) :
    s.FinishedAt (n :: entered) done todo := by
  induction todo generalizing done with
  | nil => trivial
  | cons t todo ih =>
    obtain ⟨hhere, hrest⟩ := h
    exact ⟨hhere.enter hs hp hd, ih hrest fun q hq => .inl (hd q hq)⟩

/-! ## The invariant -/

/-- The state of a walk that has entered some groups and has given some names: the groups are defined,
a place stands only in groups that have been entered, and groups are finished where they are left. -/
structure Underway (s : Schema) (entered names : List Name) (todo : List Place) : Prop where
  defined : ∀ n ∈ entered, s.Resolves (.groupRef n)
  inside : ∀ t ∈ todo, ∀ n ∈ t.stack, n ∈ entered
  finished : s.FinishedAt entered (s.Spent names) todo

namespace Underway

variable {entered names stack : List Name} {todo : List Place}

theorem start (s : Schema) (p : Particle) : s.Underway [] [] [⟨[], p⟩] := by
  refine ⟨fun n hn => absurd hn List.not_mem_nil, fun t ht n hn => ?_, fun n hn => absurd hn List.not_mem_nil,
    trivial⟩
  rw [List.mem_singleton.1 ht] at hn
  exact hn

theorem group {compositor : Compositor} {items : List Particle}
    (h : s.Underway entered names (⟨stack, .group compositor items⟩ :: todo)) :
    s.Underway entered names (placesIn stack items ++ todo) := by
  obtain ⟨hhere, hrest⟩ := h.finished
  refine ⟨h.defined, fun t ht n hn => ?_, .expand hhere (hrest.mono fun q hq => ?_)⟩
  · rcases List.mem_append.1 ht with ht | ht
    · obtain ⟨p, -, rfl⟩ := List.mem_map.1 ht
      exact h.inside _ (List.mem_cons_self ..) n hn
    · exact h.inside t (List.mem_cons_of_mem _ ht) n hn
  · rcases hq with hq | hq
    · exact .inl hq
    · rcases reachedFrom_group.1 hq with rfl | hq
      · exact .inl ⟨trivial, fun d hd => hd.elim⟩
      · exact .inr hq

/-- What a group that has been entered leads to, outside the groups it is met in, is spent. -/
theorem spent_of_entered {n : Name} (h : s.Underway entered names (⟨stack, .groupRef n⟩ :: todo))
    (hn : n ∈ entered) : ∀ q, s.ReachedFrom stack [.groupRef n] q → s.Spent names q := by
  have hself : s.Spent names (.groupRef n) := ⟨h.defined n hn, fun d hd => hd.elim⟩
  intro q hq
  by_cases hs : n ∈ stack
  -- inside its own content both walks leave the group out
  · rw [(reachedFrom_closed hs).1 hq]
    exact hself
  · obtain ⟨p, hp⟩ := h.defined n hn
    have hp := find_eq_ok_iff.1 hp
    rcases (reachedFrom_groupRef hs hp).1 hq with rfl | hq
    · exact hself
    · refine h.finished.1 n hn hs p hp q (hq.mono (fun p' hp' => .start hp') fun m hm => ?_)
      exact List.mem_cons_of_mem _ hm

theorem skip {n : Name} (h : s.Underway entered names (⟨stack, .groupRef n⟩ :: todo)) (hn : n ∈ entered) :
    s.Underway entered names todo := by
  refine ⟨h.defined, fun t ht => h.inside t (List.mem_cons_of_mem _ ht), h.finished.2.mono fun q hq => ?_⟩
  exact hq.elim id (h.spent_of_entered hn q)

theorem enter {n : Name} {p : Particle} (h : s.Underway entered names (⟨stack, .groupRef n⟩ :: todo))
    (hn : n ∉ entered) (hp : s.groups.get? n = some p) :
    s.Underway (n :: entered) names (⟨n :: stack, p⟩ :: todo) := by
  have hgroup : s.Resolves (.groupRef n) := ⟨p, find_eq_ok_iff.2 hp⟩
  have hstack : ∀ m ∈ stack, m ∈ entered := h.inside _ (List.mem_cons_self ..)
  have hns : n ∉ stack := fun hs => hn (hstack n hs)
  obtain ⟨hhere, hrest⟩ := h.finished
  refine ⟨List.forall_mem_cons.2 ⟨hgroup, h.defined⟩, fun t ht m hm => ?_, fun m hm hms p' hp' q hq => ?_, ?_⟩
  · rcases List.mem_cons.1 ht with rfl | ht
    · rcases List.mem_cons.1 hm with rfl | hm
      · exact List.mem_cons_self ..
      · exact List.mem_cons_of_mem _ (hstack m hm)
    · exact List.mem_cons_of_mem _ (h.inside t (List.mem_cons_of_mem _ ht) m hm)
  -- at the content of `n` one group more is closed, so less is asked of the others than before
  · rw [List.mem_cons, not_or] at hms
    refine hhere m ((List.mem_cons.1 hm).resolve_left hms.1) hms.2 p' hp' q ?_
    exact hq.mono (fun p hp => .start hp) fun k hk => List.mem_cons_of_mem _ hk
  -- at the places after it `n` counts as entered, and its content will have been given by then
  · have hcontent : ∀ q, s.ReachedFrom stack [.groupRef n] q →
        s.Spent names q ∨ s.ReachedFrom (n :: stack) [p] q := by
      intro q hq
      rcases (reachedFrom_groupRef hns hp).1 hq with rfl | hq
      · exact .inl ⟨hgroup, fun d hd => hd.elim⟩
      · exact .inr hq
    refine (hrest.mono fun q hq => hq.elim .inl (hcontent q)).enter hstack hp fun q hq => hcontent q ?_
    refine hq.mono (fun p' hp' => ?_) fun m hm => hm
    rw [List.mem_singleton.1 hp']
    exact .content (.start (List.mem_singleton_self _)) hns hp

theorem leaf {p : Particle} {ds : List ElementDecl} (h : s.Underway entered names (⟨stack, p⟩ :: todo))
    (hp : p.IsLeaf) (hds : s.leafDeclarations p = .ok ds) :
    s.Underway entered (ds.map (·.name) ++ names) todo := by
  refine ⟨h.defined, fun t ht => h.inside t (List.mem_cons_of_mem _ ht), h.finished.2.mono fun q hq => ?_⟩
  rcases hq with ⟨hr, hy⟩ | hq
  · exact ⟨hr, fun d hd => List.mem_append_right _ (hy d hd)⟩
  · have hlist : s.Lists (· = p) (s.leafDeclarations p) := lists_leaf hp
    obtain rfl := (reachedFrom_leaf hp).1 hq
    refine ⟨hlist.ok_iff.1 ⟨ds, hds⟩ _ rfl, fun d hd => List.mem_append_left _ ?_⟩
    exact List.mem_map.2 ⟨d, (hlist.mem_iff ds hds d).2 ⟨_, rfl, hd⟩, rfl⟩

end Underway

/-! ## First declarations -/

theorem map_joined_ok (names : List Name) (ds : List ElementDecl) (y : Result (List ElementDecl)) :
    (joined (.ok ds) y).map (firstOfEachName names) =
      joined (.ok (firstOfEachName names ds)) (y.map (firstOfEachName (ds.map (·.name) ++ names))) := by
  rcases y with e | es
  · rfl
  · exact congrArg Except.ok (firstOfEachName_append names ds es)

/-- Declarations of names that have been given add nothing. -/
theorem map_joined_of_given {names : List Name} {ds : List ElementDecl} (hd : ∀ d ∈ ds, d.name ∈ names)
    (y : Result (List ElementDecl)) :
    (joined (.ok ds) y).map (firstOfEachName names) = y.map (firstOfEachName names) := by
  have hnames : ∀ n, n ∈ ds.map (·.name) ++ names ↔ n ∈ names := by
    intro n
    rw [List.mem_append, or_iff_right_iff_imp]
    intro hn
    obtain ⟨d, hm, rfl⟩ := List.mem_map.1 hn
    exact hd d hm
  rw [map_joined_ok, firstOfEachName_eq_nil hd, nil_joined]
  exact congrArg (y.map ·) (funext (firstOfEachName_congr hnames))

/-- Particles that are spent give only names that have been given. -/
theorem pathGather_of_spent {stack names : List Name} {ps : List Particle}
    (hs : ∀ n ∈ stack, s.Resolves (.groupRef n)) (hq : ∀ q, s.ReachedFrom stack ps q → s.Spent names q) :
    ∃ ds, s.pathGather stack ps = .ok ds ∧ ∀ d ∈ ds, d.name ∈ names := by
  have hlist : s.Lists (s.ReachedFrom stack ps) (s.pathGather stack ps) := lists_pathGather hs
  obtain ⟨ds, hds⟩ := hlist.ok_iff.2 fun q h => (hq q h).1
  refine ⟨ds, hds, fun d hd => ?_⟩
  obtain ⟨q, hr, hy⟩ := (hlist.mem_iff ds hds d).1 hd
  exact (hq q hr).2 d hy

/-- Under way, both walks fail alike or give the same declarations first. -/
theorem Underway.map_gather {entered names : List Name} {ps : List Particle} {todo : List Place}
    (h : s.Underway entered names todo) (hps : todo.map (·.particle) = ps) :
    (s.gather entered ps).map (firstOfEachName names) =
      (s.pathGatherAll todo).map (firstOfEachName names) := by
  fun_induction gather s entered ps generalizing names todo with
  | case1 entered =>
    obtain rfl := List.map_eq_nil_iff.1 hps
    rfl
  | case2 entered compositor items rest ih =>
    obtain ⟨⟨stack, p⟩, todo, rfl, rfl, rfl⟩ := List.map_eq_cons_iff.1 hps
    have hitems : (placesIn stack items ++ todo).map (·.particle) = items ++ todo.map (·.particle) := by
      rw [List.map_append, map_particle_placesIn]
    rw [ih h.group hitems, pathGatherAll_placesIn, pathGatherAll, pathGather_group]
  | case3 entered n rest hn ih =>
    obtain ⟨⟨stack, p⟩, todo, rfl, rfl, rfl⟩ := List.map_eq_cons_iff.1 hps
    have hstack : ∀ m ∈ stack, s.Resolves (.groupRef m) := fun m hm =>
      h.defined m (h.inside _ (List.mem_cons_self ..) m hm)
    -- only the walk with a path goes on into the group, and it finds no name that is new
    obtain ⟨ds, hds, hgiven⟩ := pathGather_of_spent hstack (h.spent_of_entered hn)
    rw [ih (h.skip hn) rfl, pathGatherAll, hds, map_joined_of_given hgiven]
  | case4 entered n rest hn hp =>
    obtain ⟨⟨stack, p⟩, todo, rfl, rfl, rfl⟩ := List.map_eq_cons_iff.1 hps
    have hns : n ∉ stack := fun hs => hn (h.inside _ (List.mem_cons_self ..) n hs)
    rw [pathGatherAll, pathGather_undefined hns hp]
    rfl
  | case5 entered n rest hn p hp ih =>
    obtain ⟨⟨stack, p⟩, todo, rfl, rfl, rfl⟩ := List.map_eq_cons_iff.1 hps
    have hns : n ∉ stack := fun hs => hn (h.inside _ (List.mem_cons_self ..) n hs)
    rw [ih (h.enter hn hp) rfl, pathGatherAll, pathGatherAll, pathGather_groupRef hns hp]
  | case6 entered p rest hg hr ih =>
    obtain ⟨⟨stack, p⟩, todo, rfl, rfl, rfl⟩ := List.map_eq_cons_iff.1 hps
    have hp : p.IsLeaf := isLeaf_of_not_group hg hr
    rw [pathGatherAll, pathGather_leaf hp]
    rcases hds : s.leafDeclarations p with e | ds
    · rfl
    · rw [map_joined_ok, map_joined_ok, ih (h.leaf hp hds) rfl]

theorem map_walk (s : Schema) (p : Particle) :
    (s.walk p).result.map (firstOfEachName []) = (s.pathWalk p).map (firstOfEachName []) := by
  rw [result_walk]
  refine ((Underway.start s p).map_gather rfl).trans ?_
  rw [pathGatherAll, pathGatherAll, joined_nil]
  rfl

/-- Only the first declaration of each name that a walk gives counts for an extraction. -/
theorem extractBy_congr {walk walk' : Particle → Result (List ElementDecl)}
    (h : ∀ p, (walk p).map (firstOfEachName []) = (walk' p).map (firstOfEachName [])) :
    s.extractBy walk = s.extractBy walk' := by
  funext e isTopLevel
  unfold extractBy
  congr 1
  funext content
  cases content with
  | simple => rfl
  | complex content =>
    simp only
    congr 1
    funext attributes
    have hp := h content.particle
    rcases hw : walk content.particle with e | ds <;> rcases hw' : walk' content.particle with e' | ds' <;>
      rw [hw, hw'] at hp
    · rw [Except.error.inj hp]
    · cases hp
    · cases hp
    · have hfirst : firstOfEachName [] ds = firstOfEachName [] ds' := Except.ok.inj hp
      simp only [Result.ok_bind, hfirst]

/-- Entering each group only once changes neither whether a walk succeeds, nor the fault that it ends
with, nor the first declaration of each name or their order; so an extraction gives the same shape and
hands on the same declarations of children. -/
theorem walk_eq_pathWalk (s : Schema) :
    (∀ p, (s.walk p).result.map (firstOfEachName []) = (s.pathWalk p).map (firstOfEachName [])) ∧
    ∀ e isTopLevel, (s.extract e isTopLevel).result = s.extractBy s.pathWalk e isTopLevel := by
  refine ⟨s.map_walk, fun e isTopLevel => ?_⟩
  rw [result_extract, extractBy_congr s.map_walk]

end SchemaHints.Schema
