/-
Who may stand in for an element. The elements that name a head join its group, and with them those that join
theirs: the members of a substitution group are the elements related to its head by any number of such steps,
other than the head itself. It does not matter whether the steps go round in a circle, whether an element on the
way blocks substitution, which only keeps others from standing in for that element, or whether some element names
a head that is not declared, which no step leads on from.

The search keeps the names it has reached and those it has still to follow. All that is reached is related to the
head, and a name that has been followed has all that join its group among the names reached; so once nothing is
left to follow, what is reached is closed.
-/
import SchemaHints.Schema.Substitution
import Mathlib.Tactic

namespace SchemaHints.Schema

variable {s : Schema}

/-- An element of the name `m` names `n` as the head of its substitution group. -/
def Joins (s : Schema) (m n : Name) : Prop := ∃ e ∈ s.elements.values, e.name = m ∧ e.head = some n

theorem mem_directMembers {m n : Name} : m ∈ s.directMembers n ↔ s.Joins m n := by
  unfold directMembers Joins
  rw [List.mem_map]
  constructor
  · rintro ⟨e, he, hname⟩
    obtain ⟨he, hhead⟩ := List.mem_filter.1 he
    exact ⟨e, he, hname, of_decide_eq_true hhead⟩
  · rintro ⟨e, he, hname, hhead⟩
    exact ⟨e, List.mem_filter.2 ⟨he, decide_eq_true hhead⟩, hname⟩

/-! ## The search -/

/-- The names that join the group of `n` and have not been reached, the head left out. -/
def fresh (s : Schema) (head : Name) (reached : List Name) (n : Name) : List Name :=
  (s.directMembers n).filter fun m => m ≠ head ∧ m ∉ reached

theorem mem_fresh {head n m : Name} {reached : List Name} :
    m ∈ s.fresh head reached n ↔ s.Joins m n ∧ m ≠ head ∧ m ∉ reached := by
  rw [fresh, List.mem_filter, mem_directMembers, decide_eq_true_iff]

/-- What the search keeps: the names reached are related to the head, what is to be followed has been reached,
and a name that has been followed has all that join its group among those reached. -/
structure Searched (s : Schema) (head : Name) (reached pending : List Name) : Prop where
  related : ∀ n ∈ reached, n ≠ head ∧ Relation.TransGen s.Joins n head
  found : ∀ n ∈ pending, n = head ∨ n ∈ reached
  followed : ∀ n, n = head ∨ n ∈ reached → n ∈ pending ∨ ∀ m, s.Joins m n → m = head ∨ m ∈ reached

namespace Searched

variable {head : Name} {reached pending : List Name}

theorem start (s : Schema) (head : Name) : s.Searched head [] [head] where
  related := fun _ => nofun
  found := fun _ hn => .inl (List.mem_singleton.1 hn)
  followed := by
    rintro n (rfl | hn)
    · exact .inl (List.mem_singleton_self _)
    · exact absurd hn List.not_mem_nil

theorem step {n : Name} {rest : List Name} (h : s.Searched head reached (n :: rest)) :
    s.Searched head (s.fresh head reached n ++ reached) (s.fresh head reached n ++ rest) where
  related := by
    intro m hm
    rcases List.mem_append.1 hm with hm | hm
    · obtain ⟨hjoins, hne, -⟩ := mem_fresh.1 hm
      rcases h.found n (List.mem_cons_self ..) with rfl | hn
      · exact ⟨hne, .single hjoins⟩
      · exact ⟨hne, .head hjoins (h.related n hn).2⟩
    · exact h.related m hm
  found := by
    intro m hm
    rcases List.mem_append.1 hm with hm | hm
    · exact .inr (List.mem_append_left _ hm)
    · exact (h.found m (List.mem_cons_of_mem _ hm)).imp_right (List.mem_append_right _)
  followed := by
    intro k hk
    have hkept {m : Name} (hm : m = head ∨ m ∈ reached) : m = head ∨ m ∈ s.fresh head reached n ++ reached :=
      hm.imp_right (List.mem_append_right _)
    -- a name that was reached only now is still to be followed
    by_cases hnew : k ∈ s.fresh head reached n
    · exact .inl (List.mem_append_left _ hnew)
    have hold : k = head ∨ k ∈ reached :=
      hk.imp_right fun hk => (List.mem_append.1 hk).resolve_left hnew
    rcases h.followed k hold with hpending | hjoined
    · rcases List.mem_cons.1 hpending with rfl | hrest
      · refine .inr fun m hm => ?_
        by_cases hseen : m = head ∨ m ∈ reached
        · exact hkept hseen
        · obtain ⟨hne, hnot⟩ := not_or.1 hseen
          exact .inr (List.mem_append_left _ (mem_fresh.2 ⟨hm, hne, hnot⟩))
      · exact .inl (List.mem_append_right _ hrest)
    · exact .inr fun m hm => hkept (hjoined m hm)

/-- The search keeps it until nothing is left to follow. -/
theorem run (h : s.Searched head reached pending) : s.Searched head (s.reach head reached pending) [] := by
  fun_induction reach s head reached pending with
  | case1 => exact h
  | case2 reached n rest hnone ih =>
    have hstep := h.step
    rw [fresh, hnone] at hstep
    exact ih hstep
  | case3 reached n rest new news hnew ih =>
    have hstep := h.step
    rw [fresh, hnew] at hstep
    exact ih hstep

/-- A search that is over has reached all that is related to the head. -/
theorem closed (h : s.Searched head reached []) {n : Name} (hn : Relation.TransGen s.Joins n head) :
    n = head ∨ n ∈ reached := by
  have hstep {m k : Name} (hk : k = head ∨ k ∈ reached) (hm : s.Joins m k) : m = head ∨ m ∈ reached :=
    (h.followed k hk).resolve_left List.not_mem_nil m hm
  induction hn using Relation.TransGen.head_induction_on with
  | single hm => exact hstep (.inl rfl) hm
  | head hm _ ih => exact hstep ih hm

end Searched

/-- The names reached from a head are those related to it, itself left out. -/
theorem mem_reach_iff {head n : Name} :
    n ∈ s.reach head [] [head] ↔ n ≠ head ∧ Relation.TransGen s.Joins n head := by
  have hover : s.Searched head (s.reach head [] [head]) [] := (Searched.start s head).run
  constructor
  · exact hover.related n
  · rintro ⟨hne, hn⟩
    exact (hover.closed hn).resolve_left hne

/-! ## Members -/

/-- The members of the substitution group of a global element are none when it blocks substitution. Otherwise they
are, in the order of their declaration and each once, the global elements other than itself that come to it by
naming a head, which names a head, and so on. -/
theorem substitutionMembers_closure {head : ElementDecl} (hhead : head ∈ s.elements.values) :
    (head.blocksSubstitution = true → s.substitutionMembers head = []) ∧
    (head.blocksSubstitution = false →
      (s.substitutionMembers head).Sublist s.elements.values ∧
      ((s.substitutionMembers head).map (·.name)).Nodup ∧
      ∀ e, e ∈ s.substitutionMembers head ↔
        e ∈ s.elements.values ∧ e ≠ head ∧ Relation.TransGen s.Joins e.name head.name) := by
  constructor
  · intro hblocks
    rw [substitutionMembers, if_pos hblocks]
  · intro hopen
    have hmembers : s.substitutionMembers head =
        s.elements.values.filter fun e => (s.reach head.name [] [head.name]).contains e.name := by
      rw [substitutionMembers, if_neg (by rw [hopen]; exact Bool.false_ne_true)]
    have hsub : (s.substitutionMembers head).Sublist s.elements.values := by
      rw [hmembers]
      exact List.filter_sublist
    refine ⟨hsub, (hsub.map _).nodup s.nodup_name_elements, fun e => ?_⟩
    rw [hmembers, List.mem_filter, List.contains_iff_mem, mem_reach_iff]
    refine and_congr_right fun he => and_congr_left fun _ => not_congr ⟨fun hname => ?_, fun h => h ▸ rfl⟩
    have hget := get?_name_of_mem he
    rw [hname, get?_name_of_mem hhead] at hget
    exact (Option.some.inj hget).symm

/-- Elements `head` and `ring` that name each other as heads. Nothing stands in for `blocked`, yet `leaf`, which names
it as its head, stands in for `head`; and `stray` names a head that is not declared. -/
def standIns : Schema :=
  Schema.empty.addElements [⟨.plain "leaf", .any, some (.plain "blocked"), false⟩,
    ⟨.plain "head", .any, some (.plain "ring"), false⟩, ⟨.plain "stray", .any, some (.plain "nowhere"), false⟩,
    ⟨.plain "ring", .any, some (.plain "head"), false⟩, ⟨.plain "blocked", .any, some (.plain "ring"), true⟩]

theorem substitutionMembers_closure_circle : ∃ head ∈ standIns.elements.values, head.blocksSubstitution = false ∧
    (standIns.substitutionMembers head).map (·.name) = [.plain "leaf", .plain "ring", .plain "blocked"] ∧
    ∀ e ∈ standIns.substitutionMembers head, Relation.TransGen standIns.Joins e.name head.name := by
  have hhead : ⟨.plain "head", .any, some (.plain "ring"), false⟩ ∈ standIns.elements.values :=
    List.mem_cons_of_mem _ (List.mem_cons_self ..)
  refine ⟨_, hhead, rfl, by cbv, fun e he => ?_⟩
  exact ((((substitutionMembers_closure hhead).2 rfl).2.2 e).1 he).2.2

end SchemaHints.Schema
