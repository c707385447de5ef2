/-
Walks and builds within bounds. A walk is given a permit for each group that the schema defines, and uses it up
when it enters the group; a build is given a permit for each name in the scope of the schema, and uses it up when
it extracts the shape of a declaration of that name. Neither ever lacks a permit, since the groups that have been
entered, and the names that have a shape, are those whose permits are used up, and the build takes up
declarations of the schema only. What may stand in for an element is found in one step for each name of an
element that is reached.
-/
import SchemaHints.FileTree
import SchemaHints.Proofs.Bounds.Content
import SchemaHints.Proofs.Fault.Building
import Mathlib.Tactic

namespace SchemaHints.Schema

open Bounded

/-! ## Substitution groups -/

/-- The names reached through heads and members, in at most `steps` steps. -/
def boundedReach (s : Schema) (head : Name) (steps : Nat) (reached pending : List Name) : Bounded (List Name) :=
  match pending with
  | [] => of (.ok reached)
  | n :: rest => match steps with
    | 0 => giveUp
    | steps + 1 =>
      let news := (s.directMembers n).filter fun m => m ≠ head ∧ m ∉ reached
      s.boundedReach head steps (news ++ reached) (news ++ rest)

/-- The elements that may stand in for `head`, found in at most one step for each element and one for the
head. -/
def boundedMembers (s : Schema) (head : ElementDecl) : Bounded (List ElementDecl) :=
  if head.blocksSubstitution then of (.ok [])
  else do
    let reached ← s.boundedReach head.name (s.elements.size + 1) [] [head.name]
    of (.ok (s.elements.values.filter fun e => reached.contains e.name))

/-! ## Walks -/

/-- A permit that is used up leaves fewer. -/
theorem length_erase_lt {n : Name} {permits : List Name} (h : n ∈ permits) :
    (permits.erase n).length < permits.length := by
  rw [List.length_erase_of_mem h]
  exact Nat.sub_one_lt_of_lt (List.length_pos_of_mem h)

/-- The declarations that tasks lead to, entering only groups with a permit, each of which serves once. -/
def boundedWalkTasks (s : Schema) (permits entered : List Name) (todo : List Task) : Bounded (List ElementDecl) :=
  match todo with
  | [] => of (.ok [])
  | .leave :: rest => s.boundedWalkTasks permits entered rest
  | .visit (.group _ items) :: rest => s.boundedWalkTasks permits entered (groupTasks items rest)
  | .visit (.groupRef n) :: rest =>
    if n ∈ entered then s.boundedWalkTasks permits entered rest
    else match s.groups.get? n with
      | none => of (fail (.undefined .groups n))
      | some p =>
        if _h : n ∈ permits then s.boundedWalkTasks (permits.erase n) (n :: entered) (groupTasks [p] rest)
        else giveUp
  | .visit (.elementRef n) :: rest => do
    let declaration ← of (s.globalElement n)
    let members ← s.boundedMembers declaration
    let declarations ← s.boundedWalkTasks permits entered rest
    of (.ok (declaration :: members ++ declarations))
  | .visit (.localElement declaration) :: rest => do
    let declarations ← s.boundedWalkTasks permits entered rest
    of (.ok (declaration :: declarations))
  | .visit .any :: rest => s.boundedWalkTasks permits entered rest
  | .visit .empty :: rest => s.boundedWalkTasks permits entered rest
  | .visit (.unsupported tag) :: _ => of (fail (.unsupportedParticle tag))
termination_by (permits.length, taskSteps todo)
decreasing_by
  all_goals first
    | exact Prod.Lex.left _ _ (length_erase_lt _h)
    | refine Prod.Lex.right _ ?_
      try rw [taskSteps_groupTasks]
      simp only [taskSteps, Task.steps, Particle.steps]
      omega

/-- The declarations that a particle leads to, with one permit for each group. -/
def boundedWalk (s : Schema) (p : Particle) : Bounded (List ElementDecl) :=
  s.boundedWalkTasks s.groups.keys [] [.visit p]

/-! ## Builds -/

/-- The shape of an element, and the declarations of its children, one for each name. -/
def boundedExtract (s : Schema) (e : ElementDecl) (isTopLevel : Bool) :
    Bounded (ElementShape × List ElementDecl) := do
  match ← s.boundedContentType e with
  | .simple => of (.ok (.new e.name isTopLevel, []))
  | .complex content => do
    let attributes ← of (s.extractAttributes content.attributes.values).result
    let declarations ← s.boundedWalk content.particle
    let children := firstOfEachName [] declarations
    let shape := attributes.foldl ElementShape.addAttribute (.new e.name isTopLevel)
    of (.ok ({ shape with children := .ofList (children.map (·.name)) }, children))

/-- Adds the shapes of the pending declarations, and of all that they lead to, to a graph, extracting only shapes
of names with a permit, each of which serves once. -/
def boundedBuildFrom (s : Schema) (permits : List Name) (graph : ShapeGraph) (pending : List ElementDecl) :
    Bounded ShapeGraph :=
  match pending with
  | [] => of (.ok graph)
  | d :: rest =>
    if d.name ∈ graph.keys then s.boundedBuildFrom permits graph rest
    else if _h : d.name ∈ permits then do
      let (shape, children) ← s.boundedExtract d (graph.size < s.elements.size)
      s.boundedBuildFrom (permits.erase d.name) (graph.insert shape.name shape) (rest ++ children)
    else giveUp
termination_by (permits.length, pending.length)
decreasing_by
  · exact Prod.Lex.right _ (Nat.lt_succ_self _)
  · exact Prod.Lex.left _ _ (length_erase_lt _h)

/-- The shape graph of a schema, with one permit for each name under which the schema declares an element
anywhere. -/
def boundedBuild (s : Schema) : Bounded ShapeGraph :=
  s.boundedBuildFrom s.scope.eraseDups .empty s.elements.values

variable {s : Schema}

/-! ## The bounds are kept -/

/-- Each new name is one less to be reached. -/
theorem unreached_append {reached news : List Name} (hn : news.Nodup)
    (hnames : ∀ n ∈ news, n ∈ s.elements.values.map (·.name)) (hnew : ∀ n ∈ news, n ∉ reached) :
    s.unreached (news ++ reached) + news.length ≤ s.unreached reached := by
  unfold unreached
  generalize s.elements.values.map (·.name) = names at hnames
  have hsub : ∀ n ∈ news, n ∈ (names.filter fun n => n ∉ reached).filter (· ∈ news) := by
    intro n h
    simp [h, hnames n h, hnew n h]
  have hlength := (List.subperm_of_subset hn hsub).length_le
  have hsplit : (names.filter fun n => n ∉ news ++ reached) =
      (names.filter fun n => n ∉ reached).filter fun n => !decide (n ∈ news) := by
    rw [List.filter_filter]
    refine List.filter_congr fun n _ => ?_
    simp [not_or]
  have htotal := List.length_eq_length_filter_add (l := names.filter fun n => n ∉ reached) fun n => decide (n ∈ news)
  rw [hsplit]
  omega

theorem nodup_directMembers (n : Name) : (s.directMembers n).Nodup :=
  (List.filter_sublist.map _).nodup s.nodup_name_elements

theorem mem_names_of_mem_directMembers {n m : Name} (h : m ∈ s.directMembers n) :
    m ∈ s.elements.values.map (·.name) :=
  (List.filter_sublist.map _).subset h

/-- As many steps are enough as there are names to be reached and names pending. -/
theorem comesTo_reach {head : Name} {steps : Nat} {reached pending : List Name}
    (h : s.unreached reached + pending.length ≤ steps) :
    (s.boundedReach head steps reached pending).ComesTo (.ok (s.reach head reached pending)) := by
  fun_induction reach s head reached pending generalizing steps with
  | case1 reached =>
    rw [boundedReach]
    exact comesTo_of _
  | case2 reached n rest hnone ih =>
    rw [List.length_cons] at h
    obtain ⟨more, rfl⟩ : ∃ more, steps = more + 1 := ⟨steps - 1, by omega⟩
    rw [boundedReach]
    simp only [hnone]
    exact ih (by omega)
  | case3 reached n rest new news hnew ih =>
    rw [List.length_cons] at h
    obtain ⟨more, rfl⟩ : ∃ more, steps = more + 1 := ⟨steps - 1, by omega⟩
    rw [boundedReach]
    simp only [hnew]
    have hmem : ∀ m ∈ new :: news, m ∈ s.directMembers n ∧ m ∉ reached := by
      intro m hm
      rw [← hnew] at hm
      obtain ⟨hm, hr⟩ := List.mem_filter.1 hm
      exact ⟨hm, (of_decide_eq_true hr).2⟩
    have hnodup : (new :: news).Nodup := by
      rw [← hnew]
      exact (nodup_directMembers n).filter _
    have hless := unreached_append (s := s) hnodup
      (fun m hm => mem_names_of_mem_directMembers (hmem m hm).1) fun m hm => (hmem m hm).2
    refine ih ?_
    rw [List.length_append]
    omega

theorem comesTo_members (head : ElementDecl) :
    (s.boundedMembers head).ComesTo (.ok (s.substitutionMembers head)) := by
  unfold boundedMembers substitutionMembers
  split
  · exact comesTo_of _
  · refine (comesTo_reach ?_).ok_bind (comesTo_of _)
    have hall : s.unreached [] ≤ s.elements.size := by
      refine (List.length_filter_le ..).trans_eq ?_
      rw [List.length_map, Keyed.values, List.length_map]
      rfl
    rw [List.length_singleton]
    omega

/-- A walk keeps to its permits when every group that has not been entered has one. -/
theorem comesTo_walkTasks {permits entered : List Name} {todo : List Task}
    (h : ∀ n p, s.groups.get? n = some p → n ∉ entered → n ∈ permits) :
    (s.boundedWalkTasks permits entered todo).ComesTo (s.walkTasks entered todo).result := by
  fun_induction walkTasks s entered todo generalizing permits with
  | case1 entered =>
    rw [boundedWalkTasks]
    exact comesTo_of _
  | case2 entered rest ih =>
    rw [boundedWalkTasks]
    exact ih h
  | case3 entered compositor items rest ih =>
    rw [boundedWalkTasks]
    exact ih h
  | case4 entered n rest hn ih =>
    rw [boundedWalkTasks, if_pos hn]
    exact ih h
  | case5 entered n rest hn hp =>
    rw [boundedWalkTasks, if_neg hn]
    simp only [hp]
    exact comesTo_of _
  | case6 entered n rest hn p hp ih =>
    rw [boundedWalkTasks, if_neg hn]
    simp only [hp, dif_pos (h n p hp hn)]
    refine ih fun m q hq hm => ?_
    rw [List.mem_cons, not_or] at hm
    exact (List.mem_erase_of_ne hm.1).2 (h m q hq hm.2)
  | case7 entered n rest reason hd =>
    rw [boundedWalkTasks, hd]
    exact comesTo_of _
  | case8 entered n rest declaration hd ih =>
    rw [boundedWalkTasks, hd]
    simp only [Traced.result_bind, Traced.result_lines]
    refine (comesTo_of _).ok_bind ((comesTo_members declaration).ok_bind ?_)
    exact (ih h).bind fun _ _ => comesTo_of _
  | case9 entered declaration rest ih =>
    rw [boundedWalkTasks, Traced.result_bind]
    exact (ih h).bind fun _ _ => comesTo_of _
  | case10 entered rest ih =>
    rw [boundedWalkTasks]
    exact ih h
  | case11 entered rest ih =>
    rw [boundedWalkTasks]
    exact ih h
  | case12 entered tag rest =>
    rw [boundedWalkTasks]
    exact comesTo_of _

theorem comesTo_walk (p : Particle) : (s.boundedWalk p).ComesTo (s.walk p).result :=
  comesTo_walkTasks fun _ _ hp _ => Keyed.mem_keys_of_get? hp

/-! ### What a build takes up -/

/-- What holds of the declarations of a schema and of those in a particle holds of those in all that the
particle leads to. -/
theorem forall_of_reaches {P : ElementDecl → Prop} (hs : ∀ d ∈ s.declarations, P d) {p q : Particle}
    (hp : ∀ d ∈ p.declarations, P d) (h : s.Reaches p q) : ∀ d ∈ q.declarations, P d := by
  induction h with
  | self => exact hp
  | @member compositor items q _ hq ih =>
    intro d hd
    refine ih d ?_
    show d ∈ declarationsInAll items
    rw [declarationsInAll_eq]
    exact List.mem_flatMap.2 ⟨q, hq, hd⟩
  | content _ hq ih => exact forall_of_groups_get? hs (find_eq_ok_iff.1 hq)

theorem forall_of_yields {P : ElementDecl → Prop} (hs : ∀ d ∈ s.declarations, P d) {q : Particle}
    (hq : ∀ d ∈ q.declarations, P d) {d : ElementDecl} (h : s.Yields q d) : ∀ e ∈ d.declarations, P e := by
  cases q with
  | localElement declaration =>
    obtain rfl : d = declaration := h
    exact hq
  | elementRef n =>
    obtain ⟨head, hn, rfl | hd⟩ := h
    · exact forall_of_globalElement hs hn
    · exact forall_of_mem_substitutionMembers hs hd
  | _ => exact h.elim

/-- Whatever the global elements lead to is declared in the schema. -/
theorem LedTo.forall_declarations {d : ElementDecl} (h : s.LedTo d) : ∀ e ∈ d.declarations, e ∈ s.declarations := by
  have hs : ∀ e ∈ s.declarations, e ∈ s.declarations := fun _ => id
  induction h with
  | global hd => exact forall_of_mem_elements hs hd
  | child _ hq hy ih =>
    obtain ⟨content, hc, hreaches⟩ := hq
    exact forall_of_yields hs (forall_of_reaches hs (forall_of_contentType hs ih hc) hreaches) hy

theorem LedTo.mem_declarations {d : ElementDecl} (h : s.LedTo d) : d ∈ s.declarations :=
  h.forall_declarations d d.mem_declarations

theorem comesTo_extract (hs : s.Named) {e : ElementDecl} (he : e ∈ s.declarations) (isTopLevel : Bool) :
    (s.boundedExtract e isTopLevel).ComesTo (s.extract e isTopLevel).result := by
  rw [result_extract]
  refine (comesTo_contentType hs he).bind fun content _ => ?_
  cases content with
  | simple => exact comesTo_of _
  | complex content =>
    exact (comesTo_of _).bind fun _ _ => (comesTo_walk content.particle).bind fun _ _ => comesTo_of _

/-- A build keeps to its permits when every name in scope that has no shape has one, and the global elements
lead to what is pending. -/
theorem comesTo_buildFrom (hs : s.Named) {permits : List Name} {graph : ShapeGraph} {pending : List ElementDecl}
    (hp : s.CoversAll pending) (hpermits : ∀ n ∈ s.scope, n ∉ graph.keys → n ∈ permits)
    (hled : ∀ d ∈ pending, s.LedTo d) :
    (s.boundedBuildFrom permits graph pending).ComesTo (s.buildFrom s.elements.size graph pending hp).result := by
  fun_induction buildFrom s s.elements.size graph pending hp generalizing permits with
  | case1 graph =>
    rw [boundedBuildFrom]
    exact comesTo_of _
  | case2 graph d rest hp hd hp' ih =>
    rw [boundedBuildFrom, if_pos hd]
    exact ih hpermits fun e he => hled e (List.mem_cons_of_mem _ he)
  | case3 graph d rest hp hd step reason hstep =>
    have hpermit : d.name ∈ permits := hpermits _ (hp d (List.mem_cons_self ..) _ (name_mem_declared d)) hd
    have hextract := comesTo_extract hs (hled d (List.mem_cons_self ..)).mem_declarations
      (graph.size < s.elements.size)
    rw [← result_extractNext, hstep] at hextract
    rw [boundedBuildFrom, if_neg hd, dif_pos hpermit]
    exact hextract.error_bind _
  -- the permit of the new shape's name is used up, and its children are led to
  | case4 graph d rest hp hd step shape children hstep more =>
    rename_i ih
    have hscope : d.name ∈ s.scope := hp d (List.mem_cons_self ..) _ (name_mem_declared d)
    have hdled : s.LedTo d := hled d (List.mem_cons_self ..)
    have hextract := comesTo_extract hs hdled.mem_declarations (graph.size < s.elements.size)
    rw [← result_extractNext, hstep] at hextract
    have hname : shape.name = d.name := (extractNext_scope (hp d (List.mem_cons_self ..)) hstep).1
    have hchildren : ∀ e ∈ children, s.LedTo e := hdled.of_extract (result_extractNext s _ graph d ▸ hstep)
    rw [boundedBuildFrom, if_neg hd, dif_pos (hpermits _ hscope hd)]
    refine hextract.ok_bind (ih ?_ ?_)
    · intro n hn hnot
      rw [hname, keys_insert_new hd, List.mem_append, not_or, List.mem_singleton] at hnot
      exact (List.mem_erase_of_ne hnot.2).2 (hpermits n hn hnot.1)
    · intro e he
      rcases List.mem_append.1 he with he | he
      · exact hled e (List.mem_cons_of_mem _ he)
      · exact hchildren e he

/-- However the references of a compiled schema go in circles, its functions come to an end within bounds. The type
of an element is found in passing as many heads without a type as there are elements, at most. The content of
a declaration is found with as many types on the stack of derivations as there are types, at most, and as
many attribute groups inside each other as there are attribute groups. A walk enters every group once, at most.
A build extracts the shape of at most one declaration of each name under which the schema declares an element
anywhere. -/
theorem comesTo_bounded {s : Schema} (h : s.Compiled) :
    (∀ e, (s.boundedElementType e).ComesTo (s.elementType e)) ∧
    (∀ e ∈ s.declarations, (s.boundedContentType e).ComesTo (s.contentType e)) ∧
    (∀ p, (s.boundedWalk p).ComesTo (s.walk p).result) ∧
    s.boundedBuild.ComesTo s.build.result := by
  have hnamed := h.named
  refine ⟨comesTo_elementType, fun e he => comesTo_contentType hnamed he, comesTo_walk, ?_⟩
  exact comesTo_buildFrom hnamed _ (fun n hn _ => List.mem_eraseDups.2 hn) fun d => .global

/-- A schema in which references of all sorts go in circles: elements that are each other's heads, a group and an
attribute group that contain themselves, and a type that is derived from itself. -/
def circles : FileTree := .ofFiles [("main.xsd", documentBytes "" [
  "<xs:element name='a' type='t'/>", "<xs:element name='b' substitutionGroup='c'/>",
  "<xs:element name='c' substitutionGroup='b'/>",
  "<xs:group name='g'><xs:sequence>", "<xs:group ref='g'/><xs:element ref='b'/>", "</xs:sequence></xs:group>",
  "<xs:attributeGroup name='h'>", "<xs:attributeGroup ref='h'/>", "</xs:attributeGroup>",
  "<xs:complexType name='t'>", "<xs:group ref='g'/><xs:attributeGroup ref='h'/>", "</xs:complexType>",
  "<xs:complexType name='u'><xs:complexContent>", "<xs:extension base='u'/>", "</xs:complexContent></xs:complexType>"])]

theorem comesTo_bounded_circles : ∃ s : Schema, s.Compiled ∧
    (s.elements.keys, s.groups.keys, s.attributeGroups.keys, s.types.keys) =
      ([.plain "a", .plain "b", .plain "c"], [.plain "g"], [.plain "h"], [.plain "t", .plain "u"]) ∧
    (∀ e ∈ s.declarations, (s.boundedContentType e).ComesTo (s.contentType e)) ∧
    s.boundedBuild.ComesTo s.build.result := by
  have hcomputed : (compiledWithin circles.toFiles .standard (.ofString "main.xsd") 0).map
      (fun s => (s.elements.keys, s.groups.keys, s.attributeGroups.keys, s.types.keys)) =
      some ([.plain "a", .plain "b", .plain "c"], [.plain "g"], [.plain "h"], [.plain "t", .plain "u"]) := by
    decide +kernel
  obtain ⟨s, hs, hkeys⟩ := exists_compileFile hcomputed
  have hcompiled : s.Compiled := .inl ⟨_, _, _, hs⟩
  obtain ⟨-, hcontent, -, hbuild⟩ := comesTo_bounded hcompiled
  exact ⟨s, hcompiled, hkeys, hcontent, hbuild⟩

end SchemaHints.Schema
