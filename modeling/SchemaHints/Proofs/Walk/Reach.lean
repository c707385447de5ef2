/-
What a walk finds. The particles that a content model leads to are told by three rules: the model
itself, the members of a group, and the content of a named group. A walk fails exactly when one of
them is not modelled or refers to nothing, and otherwise gives the declarations that they yield and
no others, however the named groups refer to each other.

The walk enters a group once. Nothing is lost by that: whatever lies behind a group that is closed
can be reached from its content without passing through the group again.
-/
import SchemaHints.Shape.Walk

namespace SchemaHints.Schema

/-! ## Particles reached -/

/-- A particle with no other particles behind it. -/
def Particle.IsLeaf : Particle → Prop
  | .group .. | .groupRef _ => False
  | _ => True

theorem isLeaf_of_not_group {p : Particle} (hg : ∀ compositor items, p = .group compositor items → False)
    (hr : ∀ n, p = .groupRef n → False) : p.IsLeaf := by
  cases p with
  | group compositor items => exact hg _ _ rfl
  | groupRef n => exact hr _ rfl
  | _ => exact trivial

/-- The particles that `p` leads to: itself, the members of a group among them, and the content of a
named group among them. -/
inductive Reaches (s : Schema) (p : Particle) : Particle → Prop
  | self : Reaches s p p
  | member {compositor : Compositor} {items : List Particle} {q : Particle} :
    Reaches s p (.group compositor items) → q ∈ items → Reaches s p q
  | content {n : Name} {q : Particle} :
    Reaches s p (.groupRef n) → s.namedGroup n = .ok q → Reaches s p q

/-- The particles that some particles lead to when the groups in `closed` are not entered. -/
inductive ReachedFrom (s : Schema) (closed : List Name) (starts : List Particle) : Particle → Prop
  | start {p : Particle} : p ∈ starts → ReachedFrom s closed starts p
  | member {compositor : Compositor} {items : List Particle} {q : Particle} :
    ReachedFrom s closed starts (.group compositor items) → q ∈ items → ReachedFrom s closed starts q
  | content {n : Name} {q : Particle} :
    ReachedFrom s closed starts (.groupRef n) → n ∉ closed → s.groups.get? n = some q →
      ReachedFrom s closed starts q

variable {s : Schema}

theorem reaches_iff {p q : Particle} : s.Reaches p q ↔ s.ReachedFrom [] [p] q := by
  constructor
  · intro h
    induction h with
    | self => exact .start (List.mem_singleton_self _)
    | member _ hq ih => exact ih.member hq
    | content _ hq ih => exact ih.content List.not_mem_nil (find_eq_ok_iff.1 hq)
  · intro h
    induction h with
    | start hq => rw [List.mem_singleton.1 hq]; exact .self
    | member _ hq ih => exact ih.member hq
    | content _ _ hq ih => exact ih.content (find_eq_ok_iff.2 hq)

/-- Opening groups and starting from more loses nothing. -/
theorem ReachedFrom.mono {closed closed' : List Name} {starts starts' : List Particle} {q : Particle}
    (hs : ∀ p ∈ starts, s.ReachedFrom closed' starts' p) (hc : ∀ n ∈ closed', n ∈ closed)
    (h : s.ReachedFrom closed starts q) : s.ReachedFrom closed' starts' q := by
  induction h with
  | start hq => exact hs _ hq
  | member _ hq ih => exact ih.member hq
  | content _ hn hq ih => exact ih.content (fun h => hn (hc _ h)) hq

theorem not_reachedFrom_nil {closed : List Name} {q : Particle} : ¬ s.ReachedFrom closed [] q := by
  intro h
  induction h with
  | start hq => cases hq
  | member _ _ ih => exact ih
  | content _ _ _ ih => exact ih

theorem reachedFrom_append {closed : List Name} {ps ps' : List Particle} {q : Particle} :
    s.ReachedFrom closed (ps ++ ps') q ↔ s.ReachedFrom closed ps q ∨ s.ReachedFrom closed ps' q := by
  constructor
  · intro h
    induction h with
    | start hq => exact (List.mem_append.1 hq).imp .start .start
    | member _ hq ih => exact ih.imp (·.member hq) (·.member hq)
    | content _ hn hq ih => exact ih.imp (·.content hn hq) (·.content hn hq)
  · rintro (h | h)
    · exact h.mono (fun p hp => .start (List.mem_append_left _ hp)) fun _ hn => hn
    · exact h.mono (fun p hp => .start (List.mem_append_right _ hp)) fun _ hn => hn

theorem reachedFrom_cons {closed : List Name} {p : Particle} {ps : List Particle} {q : Particle} :
    s.ReachedFrom closed (p :: ps) q ↔ s.ReachedFrom closed [p] q ∨ s.ReachedFrom closed ps q := by
  rw [← List.singleton_append, reachedFrom_append]

/-! ## One step -/

theorem reachedFrom_group {closed : List Name} {compositor : Compositor} {items : List Particle}
    {q : Particle} : s.ReachedFrom closed [.group compositor items] q ↔
      q = .group compositor items ∨ s.ReachedFrom closed items q := by
  constructor
  · intro h
    induction h with
    | start hq => exact .inl (List.mem_singleton.1 hq)
    | member _ hq ih =>
      rcases ih with heq | ih
      · cases heq; exact .inr (.start hq)
      · exact .inr (ih.member hq)
    | content _ hn hq ih =>
      rcases ih with heq | ih
      · cases heq
      · exact .inr (ih.content hn hq)
  · rintro (rfl | h)
    · exact .start (List.mem_singleton_self _)
    · exact h.mono (fun p hp => .member (.start (List.mem_singleton_self _)) hp) fun _ hn => hn

/-- A group that is closed leads nowhere. -/
theorem reachedFrom_closed {closed : List Name} {n : Name} {q : Particle} (hn : n ∈ closed) :
    s.ReachedFrom closed [.groupRef n] q ↔ q = .groupRef n := by
  constructor
  · intro h
    induction h with
    | start hq => exact List.mem_singleton.1 hq
    | member _ _ ih => cases ih
    | content _ hm _ ih => cases ih; exact absurd hn hm
  · rintro rfl
    exact .start (List.mem_singleton_self _)

/-- Once the content of a group is among the starts, the group may be closed. -/
theorem reachedFrom_groupRef {closed : List Name} {n : Name} {p : Particle} {ps : List Particle}
    {q : Particle} (hn : n ∉ closed) (hp : s.groups.get? n = some p) :
    s.ReachedFrom closed (.groupRef n :: ps) q ↔
      q = .groupRef n ∨ s.ReachedFrom (n :: closed) (p :: ps) q := by
  constructor
  · intro h
    induction h with
    | start hq =>
      rcases List.mem_cons.1 hq with rfl | hq
      · exact .inl rfl
      · exact .inr (.start (List.mem_cons_of_mem _ hq))
    | member _ hq ih =>
      rcases ih with heq | ih
      · cases heq
      · exact .inr (ih.member hq)
    | @content m q _ hm hq ih =>
      -- a way that passes through the group again may as well begin at its content
      by_cases hmn : m = n
      · subst hmn
        rw [hp] at hq
        cases hq
        exact .inr (.start (List.mem_cons_self ..))
      · rcases ih with heq | ih
        · cases heq; exact absurd rfl hmn
        · exact .inr (ih.content (by simp [hmn, hm]) hq)
  · have hself : s.ReachedFrom closed (.groupRef n :: ps) (.groupRef n) := .start (List.mem_cons_self ..)
    rintro (rfl | h)
    · exact hself
    · refine h.mono (fun p' hp' => ?_) fun _ hm => List.mem_cons_of_mem _ hm
      rcases List.mem_cons.1 hp' with rfl | hp'
      · exact hself.content hn hp
      · exact .start (List.mem_cons_of_mem _ hp')

/-- A particle that is no group leads nowhere. -/
theorem reachedFrom_leaf {closed : List Name} {p q : Particle} (hp : p.IsLeaf) :
    s.ReachedFrom closed [p] q ↔ q = p := by
  constructor
  · intro h
    induction h with
    | start hq => exact List.mem_singleton.1 hq
    | member _ _ ih => rw [← ih] at hp; exact hp.elim
    | content _ _ _ ih => rw [← ih] at hp; exact hp.elim
  · rintro rfl
    exact .start (List.mem_singleton_self _)

end SchemaHints.Schema
