/-
Walking a content model: the element declarations that a particle leads to, in document order. An
element is a leaf, whatever its own content. A named group is entered once in a walk, which cuts off
groups that contain each other; the walk keeps what is still to do as a list of tasks, so that the
groups entered anywhere before count.
-/
import SchemaHints.Schema.Scope
import SchemaHints.Trace

namespace SchemaHints.Schema

/-- A step of a walk: to visit a particle, or to leave a level of nesting in the trace. -/
inductive Task
  | visit (p : Particle)
  | leave

/-! ## Sizes -/

mutual

/-- The number of steps that a particle takes when no group is entered. -/
def Particle.steps : Particle → Nat
  | .group _ items => 2 + stepsOfAll items
  | _ => 1

/-- The number of steps of some particles. -/
def stepsOfAll : List Particle → Nat
  | [] => 0
  | p :: ps => p.steps + stepsOfAll ps

end

theorem Particle.steps_pos (p : Particle) : 0 < p.steps := by
  cases p with
  | group compositor items => rw [Particle.steps]; omega
  | _ => exact Nat.one_pos

theorem stepsOfAll_append (ps ps' : List Particle) :
    stepsOfAll (ps ++ ps') = stepsOfAll ps + stepsOfAll ps' := by
  induction ps with
  | nil => simp [stepsOfAll]
  | cons p ps ih => simp [stepsOfAll, ih, Nat.add_assoc]

/-- The number of steps of a task. -/
def Task.steps : Task → Nat
  | visit p => p.steps
  | leave => 1

/-- The number of steps of some tasks. -/
def taskSteps : List Task → Nat
  | [] => 0
  | t :: ts => t.steps + taskSteps ts

/-- The tasks of visiting some particles and then leaving their level. -/
def groupTasks (items : List Particle) (todo : List Task) : List Task :=
  items.map .visit ++ .leave :: todo

theorem taskSteps_groupTasks (items : List Particle) (todo : List Task) :
    taskSteps (groupTasks items todo) = stepsOfAll items + 1 + taskSteps todo := by
  induction items with
  | nil => simp [groupTasks, taskSteps, stepsOfAll, Task.steps]
  | cons p ps ih =>
    simp only [groupTasks, taskSteps, List.map_cons, List.cons_append, stepsOfAll, Task.steps] at ih ⊢
    rw [ih]
    omega

/-! ## The walk -/

/-- Gives up with tasks left, leaving every level of nesting that is still open. -/
def abandon {α : Type} (todo : List Task) (reason : Fault) : Traced α :=
  ⟨todo.filterMap fun | .leave => some .outdent | .visit _ => none, .error reason⟩

/-- What there is to say about the members of a substitution group. -/
def substitutionNotes (head : ElementDecl) (members : List ElementDecl) : List String :=
  if members.isEmpty then []
  else ["Substitution group " ++ head.name.text ++ " has " ++ toString members.length ++ " member(s)"]

/-- The declarations that tasks lead to when the groups in `entered` have been entered already. -/
def walkTasks (s : Schema) (entered : List Name) (todo : List Task) : Traced (List ElementDecl) :=
  match todo with
  | [] => pure []
  | .leave :: rest => do
    Traced.act .outdent
    s.walkTasks entered rest
  | .visit (.group compositor items) :: rest => do
    Traced.line ("Parsing group " ++ compositor.text)
    Traced.act .indent
    s.walkTasks entered (groupTasks items rest)
  | .visit (.groupRef n) :: rest =>
    if _hn : n ∈ entered then do
      Traced.line ("Group " ++ n.text ++ " already entered")
      s.walkTasks entered rest
    else match _h : s.groups.get? n with
      | none => do
        Traced.line ("Parsing groupRef " ++ n.text)
        Traced.act .indent
        abandon (.leave :: rest) { cause := .undefined .groups n }
      | some p => do
        Traced.line ("Parsing groupRef " ++ n.text)
        Traced.act .indent
        s.walkTasks (n :: entered) (groupTasks [p] rest)
  | .visit (.elementRef n) :: rest => match s.globalElement n with
    | .error reason => abandon rest reason
    | .ok declaration => do
      Traced.lines (substitutionNotes declaration (s.substitutionMembers declaration))
      let declarations ← s.walkTasks entered rest
      pure (declaration :: s.substitutionMembers declaration ++ declarations)
  -- a local declaration is no head: nothing may stand in for it
  | .visit (.localElement declaration) :: rest => do
    let declarations ← s.walkTasks entered rest
    pure (declaration :: declarations)
  | .visit .any :: rest => s.walkTasks entered rest
  | .visit .empty :: rest => s.walkTasks entered rest
  | .visit (.unsupported tag) :: rest => abandon rest { cause := .unsupportedParticle tag }
termination_by (unvisited s.groups entered, taskSteps todo)
decreasing_by
  all_goals first
    | exact Prod.Lex.left _ _ (unvisited_lt _h _hn)
    | refine Prod.Lex.right _ ?_
      try rw [taskSteps_groupTasks]
      simp only [taskSteps, Task.steps, Particle.steps]
      omega

/-- The declarations that a particle leads to. -/
def walk (s : Schema) (p : Particle) : Traced (List ElementDecl) := s.walkTasks [] [.visit p]

/-! ## The walk stays in scope -/

/-- The names declared in the particle of a task. -/
def Task.declared : Task → List Name
  | visit p => p.declared
  | leave => []

/-- All tasks of a list are within the scope of a schema. -/
def CoversTasks (s : Schema) (todo : List Task) : Prop := ∀ t ∈ todo, s.Covers t.declared

theorem coversTasks_groupTasks {s : Schema} {items : List Particle} {todo : List Task}
    (hi : s.Covers (declaredInAll items)) (ht : s.CoversTasks todo) :
    s.CoversTasks (groupTasks items todo) := by
  induction items with
  | nil =>
    intro t h
    rcases List.mem_cons.1 h with rfl | h
    · intro n hn; cases hn
    · exact ht t h
  | cons p ps ih =>
    intro t h
    rcases List.mem_cons.1 h with rfl | h
    · exact fun n hn => hi n (List.mem_append_left _ hn)
    · exact ih (fun n hn => hi n (List.mem_append_right _ hn)) t h

theorem covers_of_walkTasks {s : Schema} {entered : List Name} {todo : List Task} {ds : List ElementDecl}
    (ht : s.CoversTasks todo) (h : (s.walkTasks entered todo).result = .ok ds) :
    ∀ d ∈ ds, s.Covers d.declared := by
  fun_induction walkTasks s entered todo generalizing ds with
  | case1 => cases h; simp
  | case2 _ rest ih => exact ih (fun t h => ht t (List.mem_cons_of_mem _ h)) h
  | case3 _ compositor items rest ih =>
    exact ih (coversTasks_groupTasks (ht _ (List.mem_cons_self ..))
      fun t h => ht t (List.mem_cons_of_mem _ h)) h
  | case4 _ n rest _ ih => exact ih (fun t h => ht t (List.mem_cons_of_mem _ h)) h
  | case5 => cases h
  | case6 _ n rest _ p hp ih =>
    refine ih (coversTasks_groupTasks ?_ fun t h => ht t (List.mem_cons_of_mem _ h)) h
    simpa [declaredInAll] using covers_of_groups_get? hp
  | case7 => cases h
  | case8 entered n rest declaration hd ih =>
    simp only [Traced.result_bind, Traced.result_lines] at h
    obtain ⟨_, -, h⟩ := Result.bind_eq_ok.1 h
    obtain ⟨more, hr, h⟩ := Result.bind_eq_ok.1 h
    cases h
    intro d hm
    rcases List.mem_cons.1 hm with rfl | hm
    · exact covers_of_globalElement hd
    rcases List.mem_append.1 hm with hm | hm
    · exact covers_of_mem_substitutionMembers hm
    · exact ih (fun t h => ht t (List.mem_cons_of_mem _ h)) hr d hm
  | case9 entered declaration rest ih =>
    simp only [Traced.result_bind] at h
    obtain ⟨more, hr, h⟩ := Result.bind_eq_ok.1 h
    cases h
    intro d hm
    rcases List.mem_cons.1 hm with rfl | hm
    · exact ht _ (List.mem_cons_self ..)
    · exact ih (fun t h => ht t (List.mem_cons_of_mem _ h)) hr d hm
  | case10 _ rest ih => exact ih (fun t h => ht t (List.mem_cons_of_mem _ h)) h
  | case11 _ rest ih => exact ih (fun t h => ht t (List.mem_cons_of_mem _ h)) h
  | case12 => cases h

theorem covers_of_walk {s : Schema} {p : Particle} {ds : List ElementDecl} (hp : s.Covers p.declared)
    (h : (s.walk p).result = .ok ds) : ∀ d ∈ ds, s.Covers d.declared :=
  covers_of_walkTasks (fun t ht => by rw [List.mem_singleton.1 ht]; exact hp) h

end SchemaHints.Schema
