/-
Substitution groups. An element may be replaced by the members of its substitution group, by the
members of theirs, and so on, unless it blocks substitution; the relation may have cycles.
-/
import SchemaHints.Schema.Basic

namespace SchemaHints.Schema

/-- The names of the elements that name `n` as their head. -/
def directMembers (s : Schema) (n : Name) : List Name :=
  (s.elements.values.filter (·.head = some n)).map (·.name)

/-- The names among the elements that `names` does not hold. -/
def unreached (s : Schema) (names : List Name) : Nat :=
  ((s.elements.values.map (·.name)).filter fun n => n ∉ names).length

/-- The names reached so far and those reached from `pending` through heads and members; the name
`head` itself is left out. -/
def reach (s : Schema) (head : Name) (reached pending : List Name) : List Name :=
  match pending with
  | [] => reached
  | n :: rest =>
    match _h : (s.directMembers n).filter fun m => m ≠ head ∧ m ∉ reached with
    | [] => s.reach head reached rest
    | new :: news => s.reach head (new :: news ++ reached) (new :: news ++ rest)
termination_by (s.unreached reached, pending.length)
decreasing_by
  · exact Prod.Lex.right _ (Nat.lt_succ_self _)
  · refine Prod.Lex.left _ _ ?_
    have hmem : new ∈ (s.directMembers n).filter fun m => m ≠ head ∧ m ∉ reached := by rw [_h]; simp
    obtain ⟨hd, hr⟩ := List.mem_filter.1 hmem
    simp only [ne_eq, decide_eq_true_eq] at hr
    have hel : new ∈ s.elements.values.map (·.name) := by
      obtain ⟨d, hm, rfl⟩ := List.mem_map.1 hd
      exact List.mem_map.2 ⟨d, (List.mem_filter.1 hm).1, rfl⟩
    unfold unreached
    have hsub : ((s.elements.values.map (·.name)).filter fun m => m ∉ new :: news ++ reached) =
        ((s.elements.values.map (·.name)).filter fun m => m ∉ reached).filter (· ∉ new :: news) := by
      rw [List.filter_filter]
      refine List.filter_congr fun m _ => ?_
      simp only [List.cons_append, List.mem_cons, List.mem_append, not_or, Bool.decide_and]
      rw [Bool.and_assoc]
    rw [hsub]
    exact List.length_filter_lt_length_iff_exists.2
      ⟨new, List.mem_filter.2 ⟨hel, by simpa using hr.2⟩, by simp⟩

/-- The elements that may stand in for `head`, in the order of their declaration. -/
def substitutionMembers (s : Schema) (head : ElementDecl) : List ElementDecl :=
  if head.blocksSubstitution then []
  else
    let reached := s.reach head.name [] [head.name]
    s.elements.values.filter fun e => reached.contains e.name

end SchemaHints.Schema
