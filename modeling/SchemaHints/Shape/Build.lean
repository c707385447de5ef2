/-
Building the shape graph of a schema: breadth first from the global elements, one shape for each
name, by the declaration that is reached first. The global elements are reached before all others,
so a shape is top level while there are fewer shapes than global elements. Every declaration that is
ever reached is in the scope of the schema, and each shape uses up one of the names there.
-/
import SchemaHints.Shape.Extract

namespace SchemaHints.Schema

/-- A list of declarations within the scope of a schema. -/
def CoversAll (s : Schema) (ds : List ElementDecl) : Prop := ∀ d ∈ ds, s.Covers d.declared

/-- The number of names in scope that have no shape yet. -/
def unshaped (s : Schema) (graph : ShapeGraph) : Nat := (s.scope.filter fun n => n ∉ graph.keys).length

theorem keys_insert_new {graph : ShapeGraph} {n : Name} {shape : ElementShape} (hn : n ∉ graph.keys) :
    (graph.insert n shape).keys = graph.keys ++ [n] := by
  rw [Keyed.keys, Keyed.entries_insert_of_not_mem hn, List.map_append]
  rfl

theorem unshaped_insert {s : Schema} {graph : ShapeGraph} {n : Name} {shape : ElementShape}
    (hs : n ∈ s.scope) (hn : n ∉ graph.keys) : s.unshaped (graph.insert n shape) < s.unshaped graph := by
  unfold unshaped
  have hsub : (s.scope.filter fun m => m ∉ (graph.insert n shape).keys) =
      (s.scope.filter fun m => m ∉ graph.keys).filter (· ≠ n) := by
    rw [List.filter_filter]
    refine List.filter_congr fun m _ => ?_
    rw [keys_insert_new hn]
    simp [List.mem_append, not_or, Bool.and_comm]
  rw [hsub]
  exact List.length_filter_lt_length_iff_exists.2 ⟨n, List.mem_filter.2 ⟨hs, by simpa using hn⟩, by simp⟩

theorem name_mem_declared (d : ElementDecl) : d.name ∈ d.declared := by
  obtain ⟨name, type, head, blocks⟩ := d
  exact List.mem_cons_self ..

/-- Extracts the shape of a declaration, saying so. -/
def extractNext (s : Schema) (topLevelCount : Nat) (graph : ShapeGraph) (d : ElementDecl) :
    Traced (ElementShape × List ElementDecl) := do
  let isTopLevel := graph.size < topLevelCount
  Traced.line ("Element " ++ d.name.text ++ if isTopLevel then " (top)" else "")
  s.extract d isTopLevel

theorem extractNext_scope {s : Schema} {count : Nat} {graph : ShapeGraph} {d : ElementDecl}
    {shape : ElementShape} {children : List ElementDecl} (hd : s.Covers d.declared)
    (h : (s.extractNext count graph d).result = .ok (shape, children)) :
    shape.name = d.name ∧ s.CoversAll children := by
  unfold extractNext at h
  simp only [Traced.result_bind, Traced.result_line] at h
  exact extract_scope hd h

/-- Adds the shapes of the pending declarations, and of all that they lead to, to a graph. -/
def buildFrom (s : Schema) (topLevelCount : Nat) (graph : ShapeGraph) (pending : List ElementDecl)
    (hp : s.CoversAll pending) : Traced ShapeGraph :=
  match pending, hp with
  | [], _ => pure graph
  | d :: rest, hp =>
    if _hd : d.name ∈ graph.keys then
      s.buildFrom topLevelCount graph rest fun d h => hp d (List.mem_cons_of_mem _ h)
    else
      let step := s.extractNext topLevelCount graph d
      match h : step.result with
      | .error reason => ⟨step.acts, .error reason⟩
      | .ok (shape, children) =>
        let more := s.buildFrom topLevelCount (graph.insert shape.name shape) (rest ++ children) fun e he =>
          (List.mem_append.1 he).elim (fun he => hp e (List.mem_cons_of_mem _ he))
            ((extractNext_scope (hp d (List.mem_cons_self ..)) h).2 e)
        ⟨step.acts ++ more.acts, more.result⟩
termination_by (s.unshaped graph, pending.length)
decreasing_by
  · exact Prod.Lex.right _ (Nat.lt_succ_self _)
  · refine Prod.Lex.left _ _ ?_
    have hscope := hp d (List.mem_cons_self ..)
    rw [(extractNext_scope hscope h).1]
    exact unshaped_insert (hscope _ (name_mem_declared d)) _hd

/-- The shape graph of a schema. -/
def build (s : Schema) : Traced ShapeGraph :=
  s.buildFrom s.elements.size .empty s.elements.values fun _ => covers_of_mem_elements

end SchemaHints.Schema
