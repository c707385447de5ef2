/-
The types that untyped elements take over. An untyped element has the type of the head of its substitution group,
whatever the head has it from: a type of its own, a head above it, or nothing, which is any type. An element on a
circle of untyped ones has any type.

The type of an element is looked for among the heads above it until one comes again that has been seen. Looked for
from the head, the element itself has not been seen when the search comes to it; but then its own head has, so
that the search ends one head later with the same type.
-/
import SchemaHints.Proofs.Substitution.Members

namespace SchemaHints.Schema

variable {s : Schema}

/-- The untyped element `d` names `h` as the head of its substitution group. -/
def TypedBy (s : Schema) (d h : ElementDecl) : Prop :=
  d.type = .any ∧ ∃ n, d.head = some n ∧ s.globalElement n = .ok h

/-! ## Looking for a type -/

/-- Whether an untyped element has been seen makes no difference once its head has been seen: to come to it is to
come to its head next. -/
theorem inheritedType_also_seen {d : ElementDecl} {n : Name} {seen seen' : List Name}
    (hget : s.elements.get? d.name = some d) (hany : d.type = .any) (hhead : d.head = some n) (hn : n ∈ seen)
    (hseen : ∀ m, m ∈ seen' ↔ m = d.name ∨ m ∈ seen) (head : Option Name) :
    s.inheritedType seen' head = s.inheritedType seen head := by
  fun_induction inheritedType s seen head generalizing seen' with
  | case1 seen => rw [inheritedType_none]
  | case2 seen m hm => rw [inheritedType_seen ((hseen m).2 (.inr hm))]
  | case3 seen m hm hnone =>
    have hne : m ≠ d.name := by
      rintro rfl
      rw [hget] at hnone
      cases hnone
    exact inheritedType_undeclared (fun h => ((hseen m).1 h).elim hne hm) hnone
  | case4 seen m hm e he htype ih =>
    by_cases hmd : m = d.name
    · rw [hmd, hget] at he
      cases he
      rw [inheritedType_seen ((hseen m).2 (.inl hmd)), hhead, inheritedType_seen (List.mem_cons_of_mem _ hn)]
    · have hm' : m ∉ seen' := fun h => ((hseen m).1 h).elim hmd hm
      rw [inheritedType_of_head hm' he, htype]
      refine ih (List.mem_cons_of_mem _ hn) fun k => ?_
      rw [List.mem_cons, List.mem_cons, hseen, or_left_comm]
  | case5 seen m hm e he htype =>
    have hne : m ≠ d.name := by
      rintro rfl
      rw [hget] at he
      cases he
      exact htype hany
    rw [inheritedType_of_head (fun h => ((hseen m).1 h).elim hne hm) he]
    split
    · exact absurd ‹_› htype
    · rfl

/-! ## Chains of heads -/

/-- An untyped element has the type of its head. -/
theorem elementType_of_typedBy {d h : ElementDecl} (hd : d ∈ s.elements.values) (hh : s.TypedBy d h) :
    s.elementType d = s.elementType h := by
  obtain ⟨hany, n, hn, hget⟩ := hh
  have hname : h.name = n := name_of_globalElement hget
  have hhead : s.elements.get? n = some h := find_eq_ok_iff.1 hget
  by_cases hself : n = d.name
  · rw [hself, get?_name_of_mem hd] at hhead
    rw [Option.some.inj hhead]
  · have hnot : n ∉ [d.name] := fun hmem => hself (List.mem_singleton.1 hmem)
    rw [elementType_of_any hany, hn, inheritedType_of_head hnot hhead]
    split
    · rename_i htype
      rw [elementType_of_any htype, hname]
      refine inheritedType_also_seen (get?_name_of_mem hd) hany hn (List.mem_singleton_self n) (fun m => ?_) h.head
      rw [List.mem_cons, List.mem_singleton, List.mem_singleton, or_comm]
    · rename_i htype
      exact (elementType_of_typed htype).symm

/-- The elements on the way from a global element are global. -/
theorem mem_elements_of_chain {d h : ElementDecl} (hd : d ∈ s.elements.values)
    (hchain : Relation.ReflTransGen s.TypedBy d h) : h ∈ s.elements.values := by
  rcases hchain.cases_tail with rfl | ⟨_, -, -, n, -, hget⟩
  · exact hd
  · exact mem_elements_of_globalElement hget

theorem elementType_of_chain {d h : ElementDecl} (hd : d ∈ s.elements.values)
    (hchain : Relation.ReflTransGen s.TypedBy d h) : s.elementType d = s.elementType h := by
  induction hchain with
  | refl => rfl
  | tail hchain hstep ih => exact ih.trans (elementType_of_typedBy (mem_elements_of_chain hd hchain) hstep)

/-! ## Circles -/

/-- After an element on a circle comes one element, which is on the circle too. -/
theorem exists_next_on_circle {d : ElementDecl} (hcircle : Relation.TransGen s.TypedBy d d) :
    ∃ h, s.TypedBy d h ∧ Relation.TransGen s.TypedBy h h := by
  obtain ⟨h, hstep, hback⟩ := Relation.TransGen.head'_iff.1 hcircle
  exact ⟨h, hstep, .tail' hback hstep⟩

/-- Looking for a type among the heads on a circle ends where it comes to one that has been seen. -/
theorem inheritedType_of_circle {seen : List Name} {head : Option Name}
    (hhead : ∀ n, head = some n → ∃ d, s.elements.get? n = some d ∧ Relation.TransGen s.TypedBy d d) :
    s.inheritedType seen head = .ok .any := by
  fun_induction inheritedType s seen head with
  | case1 => rfl
  | case2 => rfl
  | case3 seen n hn hnone =>
    obtain ⟨d, hget, -⟩ := hhead n rfl
    rw [hnone] at hget
    cases hget
  | case4 seen n hn e he htype ih =>
    obtain ⟨d, hget, hcircle⟩ := hhead n rfl
    rw [he] at hget
    cases hget
    obtain ⟨h, ⟨-, m, hm, hnext⟩, hon⟩ := exists_next_on_circle hcircle
    refine ih fun k hk => ?_
    rw [hm] at hk
    cases hk
    exact ⟨h, find_eq_ok_iff.1 hnext, hon⟩
  | case5 seen n hn e he htype =>
    obtain ⟨d, hget, hcircle⟩ := hhead n rfl
    rw [he] at hget
    cases hget
    obtain ⟨_, ⟨hany, -⟩, -⟩ := exists_next_on_circle hcircle
    exact absurd hany htype

theorem elementType_of_circle {d : ElementDecl} (hcircle : Relation.TransGen s.TypedBy d d) :
    s.elementType d = .ok .any := by
  obtain ⟨h, ⟨hany, n, hn, hget⟩, hon⟩ := exists_next_on_circle hcircle
  rw [elementType_of_any hany]
  refine inheritedType_of_circle fun k hk => ?_
  rw [hn] at hk
  cases hk
  exact ⟨h, find_eq_ok_iff.1 hget, hon⟩

/-! ## The type of an untyped element -/

/-- An untyped global element that joins no substitution group has any type. One that does has the type of the
head that it names, or fails as the head does, and fails itself when no such head is declared. So it is with all
heads above it, however many, and an element on a circle of untyped elements has any type. -/
theorem elementType_untyped {d : ElementDecl} (hd : d ∈ s.elements.values) (hany : d.type = .any) :
    (d.head = none → s.elementType d = .ok .any) ∧
    (∀ n h, d.head = some n → s.globalElement n = .ok h → s.elementType d = s.elementType h) ∧
    (∀ n, d.head = some n → s.elements.get? n = none →
      s.elementType d = fail (.undefined .substitutionHeads n)) ∧
    (∀ h, Relation.ReflTransGen s.TypedBy d h → s.elementType d = s.elementType h) ∧
    (Relation.TransGen s.TypedBy d d → s.elementType d = .ok .any) := by
  refine ⟨fun hnone => ?_, fun n h hn hget => ?_, fun n hn hnone => ?_, fun h => elementType_of_chain hd,
    elementType_of_circle⟩
  · rw [elementType_of_any hany, hnone, inheritedType_none]
  · exact elementType_of_typedBy hd ⟨hany, n, hn, hget⟩
  · have hnot : n ∉ [d.name] := by
      intro hmem
      rw [List.mem_singleton.1 hmem, get?_name_of_mem hd] at hnone
      cases hnone
    rw [elementType_of_any hany, hn, inheritedType_undeclared hnot hnone]

/-- An untyped element that joins a substitution group. -/
def joining (name head : String) : ElementDecl := ⟨.plain name, .any, some (.plain head), false⟩

/-- A chain of untyped elements that ends at a text, a circle of two of them, and one whose head is not declared. -/
def memos : Schema :=
  Schema.empty.addElements [joining "note" "entry", joining "entry" "text",
    .simple (.plain "text") (.named ⟨schemaNamespace, "string"⟩), joining "ping" "pong", joining "pong" "ping",
    joining "stray" "nowhere"]

theorem typedBy_memos {name head : String} {h : ElementDecl}
    (hget : memos.elements.get? (.plain head) = some h) : memos.TypedBy (joining name head) h :=
  ⟨rfl, .plain head, rfl, find_eq_ok_iff.2 hget⟩

theorem elementType_untyped_memos :
    (joining "note" "entry" ∈ memos.elements.values ∧ memos.elementType (joining "note" "entry") = .ok .builtin) ∧
    (joining "ping" "pong" ∈ memos.elements.values ∧ memos.elementType (joining "ping" "pong") = .ok .any) ∧
    (joining "stray" "nowhere" ∈ memos.elements.values ∧
      memos.elementType (joining "stray" "nowhere") = fail (.undefined .substitutionHeads (.plain "nowhere"))) := by
  have hmem {d : ElementDecl} (hget : memos.elements.get? d.name = some d) : d ∈ memos.elements.values :=
    Keyed.mem_values_of_get? hget
  have hnote : joining "note" "entry" ∈ memos.elements.values := hmem rfl
  have hping : joining "ping" "pong" ∈ memos.elements.values := hmem rfl
  have hstray : joining "stray" "nowhere" ∈ memos.elements.values := hmem rfl
  refine ⟨⟨hnote, ?_⟩, ⟨hping, ?_⟩, hstray, ?_⟩
  · have hchain : Relation.ReflTransGen memos.TypedBy (joining "note" "entry")
        (.simple (.plain "text") (.named ⟨schemaNamespace, "string"⟩)) :=
      .head (typedBy_memos (h := joining "entry" "text") rfl) (.single (typedBy_memos rfl))
    exact (elementType_untyped hnote rfl).2.2.2.1 _ hchain
  · have hcircle : Relation.TransGen memos.TypedBy (joining "ping" "pong") (joining "ping" "pong") :=
      .head (typedBy_memos (h := joining "pong" "ping") rfl) (.single (typedBy_memos rfl))
    exact (elementType_untyped hping rfl).2.2.2.2 hcircle
  · exact (elementType_untyped hstray rfl).2.2.1 _ rfl rfl

end SchemaHints.Schema
