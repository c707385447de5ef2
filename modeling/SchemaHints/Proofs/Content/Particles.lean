/-
Content models along a derivation. A type that extends its base has the content of the base and then its own; a
restriction has its own alone, and simple content has none. So the content of a type is what the types of its chain
have themselves, one after another from the last of them that takes over nothing, the root in any case, down to the
type itself.

The particles are put together two at a time, and empty ones are left out. A walk sees neither: it comes to the same
declarations, in the same order, as from all these particles in one sequence, whatever groups have been entered and
whatever is to be visited afterwards.
-/
import SchemaHints.Proofs.Content.Derivation
import SchemaHints.Proofs.Walk.Gather
import Mathlib.Order.Bounds.Basic

namespace SchemaHints.Schema

variable {s : Schema}

/-! ## Chains of types -/

/-- The particle that a type has itself; simple content has none. -/
def ComplexType.own (t : ComplexType) : Particle := if t.hasSimpleContent then .empty else t.particle

/-- A type that takes over no particle of its base: a restriction, or one with simple content. -/
def ComplexType.StartsAfresh (t : ComplexType) : Prop :=
  t.hasSimpleContent = true ∨ ∃ base, t.derivation = some ⟨.restriction, base⟩

/-- The complex types that a type comes from, itself the last: the first has no complex base, and each is the base
of the next. -/
inductive Chain (s : Schema) : List ComplexType → ComplexType → Prop
  | root {a : ComplexType} : (∀ b, ¬ s.BaseOf a b) → Chain s [a] a
  | derived {chain : List ComplexType} {b t : ComplexType} :
    Chain s chain b → s.BaseOf t b → Chain s (chain ++ [t]) t

/-- The places of a chain at which a content model begins: the first, and those of types that start afresh. -/
def beginnings (chain : List ComplexType) : Set Nat :=
  {i | i = 0 ∨ ∃ t, chain[i]? = some t ∧ t.StartsAfresh}

theorem Chain.ne_nil {chain : List ComplexType} {t : ComplexType} (h : s.Chain chain t) : chain ≠ [] := by
  cases h with
  | root => exact List.cons_ne_nil _ _
  | derived => exact List.append_ne_nil_of_right_ne_nil _ (List.cons_ne_nil _ _)

theorem lt_length_of_mem_beginnings {chain : List ComplexType} (hchain : chain ≠ []) {i : Nat}
    (hi : i ∈ beginnings chain) : i < chain.length := by
  rcases hi with rfl | ⟨t, ht, -⟩
  · exact List.length_pos_iff.2 hchain
  · exact (List.getElem?_eq_some_iff.1 ht).1

theorem mem_beginnings_concat {chain : List ComplexType} {t : ComplexType} {i : Nat} :
    i ∈ beginnings (chain ++ [t]) ↔ i ∈ beginnings chain ∨ i = chain.length ∧ t.StartsAfresh := by
  constructor
  · rintro (rfl | ⟨u, hu, hfresh⟩)
    · exact .inl (.inl rfl)
    · rcases getElem?_concat_eq_some.1 hu with hu | ⟨rfl, rfl⟩
      · exact .inl (.inr ⟨u, hu, hfresh⟩)
      · exact .inr ⟨rfl, hfresh⟩
  · rintro ((rfl | ⟨u, hu, hfresh⟩) | ⟨rfl, hfresh⟩)
    · exact .inl rfl
    · exact .inr ⟨u, getElem?_concat_eq_some.2 (.inl hu), hfresh⟩
    · exact .inr ⟨t, getElem?_concat_eq_some.2 (.inr ⟨rfl, rfl⟩), hfresh⟩

/-- The last beginning of a chain whose last type starts afresh is the place of that type. -/
theorem isGreatest_concat_of_fresh {chain : List ComplexType} (hchain : chain ≠ []) {t : ComplexType}
    (ht : t.StartsAfresh) : IsGreatest (beginnings (chain ++ [t])) chain.length := by
  refine ⟨mem_beginnings_concat.2 (.inr ⟨rfl, ht⟩), fun i hi => ?_⟩
  rcases mem_beginnings_concat.1 hi with hi | ⟨rfl, -⟩
  · exact (lt_length_of_mem_beginnings hchain hi).le
  · exact le_rfl

/-- A type that takes over content adds no beginning to a chain. -/
theorem beginnings_concat {chain : List ComplexType} {t : ComplexType} (ht : ¬ t.StartsAfresh) :
    beginnings (chain ++ [t]) = beginnings chain := by
  ext i
  rw [mem_beginnings_concat]
  exact or_iff_left fun h => ht h.2

theorem exists_isGreatest_beginnings {chain : List ComplexType} (hchain : chain ≠ []) :
    ∃ k, IsGreatest (beginnings chain) k := by
  induction chain using List.reverseRecOn with
  | nil => exact absurd rfl hchain
  | append_singleton chain t ih =>
    by_cases hrest : chain = []
    · subst hrest
      exact ⟨0, Or.inl rfl, fun i hi => Nat.le_of_lt_succ (lt_length_of_mem_beginnings hchain hi)⟩
    by_cases ht : t.StartsAfresh
    · exact ⟨_, isGreatest_concat_of_fresh hrest ht⟩
    · rw [beginnings_concat ht]
      exact ih hrest

/-- A type whose content is known has a chain. -/
theorem exists_chain {within : List Name} {t : ComplexType} {c : Content} (hc : s.complexContent within t = .ok c) :
    ∃ chain, s.Chain chain t := by
  rcases complexContent_cases hc with ⟨hroot, -⟩ | ⟨method, base, b, inherited, ht, hbase, hn, hi, -⟩
  · exact ⟨_, .root hroot⟩
  · obtain ⟨chain, hchain⟩ := exists_chain hi
    exact ⟨_, hchain.derived ⟨method, base, ht, hbase⟩⟩
termination_by unvisited s.types within
decreasing_by exact unvisited_lt (typeNamed_eq_complex.1 hbase).2 hn

/-! ## Particles that are left out, and particles put together -/

/-- An empty particle may be left out wherever it stands. -/
theorem gather_append_empty (entered : List Name) (ps rest : List Particle) :
    s.gather entered (ps ++ .empty :: rest) = s.gather entered (ps ++ rest) := by
  fun_induction gather s entered ps with
  | case1 entered => exact gather_silent (p := .empty) trivial rfl entered rest
  | case2 entered compositor items ps ih =>
    rw [List.cons_append, List.cons_append, gather_group, gather_group, ← List.append_assoc, ← List.append_assoc]
    exact ih
  | case3 entered n ps hn ih =>
    rw [List.cons_append, List.cons_append, gather_closed hn, gather_closed hn]
    exact ih
  | case4 entered n ps hn hp =>
    rw [List.cons_append, List.cons_append, gather_undefined hn hp, gather_undefined hn hp]
  | case5 entered n ps hn p hp ih =>
    rw [List.cons_append, List.cons_append, gather_groupRef hn hp, gather_groupRef hn hp]
    exact ih
  | case6 entered p ps hg hr ih =>
    have hp : p.IsLeaf := isLeaf_of_not_group hg hr
    rw [List.cons_append, List.cons_append, gather_leaf hp, gather_leaf hp, ih]

/-- Two particles put together lead to what they lead to one after the other. -/
theorem gather_sequenceOf (entered : List Name) (p q : Particle) (rest : List Particle) :
    s.gather entered (.sequenceOf p q :: rest) = s.gather entered (p :: q :: rest) := by
  unfold Particle.sequenceOf
  split
  · exact (gather_append_empty entered [] _).symm
  · exact (gather_append_empty entered [p] rest).symm
  · exact gather_group ..

/-! ## The content of a type -/

theorem particle_of_ownContent {t : ComplexType} {inherited c : Content} (h : s.ownContent t inherited = .ok c) :
    c.particle = if t.hasSimpleContent then inherited.particle else .sequenceOf inherited.particle t.particle := by
  obtain ⟨attributes, -, h⟩ := Result.bind_eq_ok.1 h
  cases h
  rfl

/-- A type that takes over no particle has its own. -/
theorem particle_of_own {t : ComplexType} {inherited c : Content} (h : s.ownContent t inherited = .ok c)
    (hi : inherited.particle = .empty) : c.particle = t.own := by
  rw [particle_of_ownContent h, hi, ComplexType.own]
  rfl

theorem particle_inherited_of_fresh {t : ComplexType} {method : DerivationMethod} {base : Name}
    (hd : t.derivation = some ⟨method, base⟩) (ht : t.StartsAfresh) (inherited : Content) :
    (inherited.inherited method t).particle = .empty := by
  refine if_neg ?_
  rintro ⟨rfl, hsimple⟩
  rcases ht with ht | ⟨base', ht⟩
  · rw [ht] at hsimple
    cases hsimple
  · rw [hd] at ht
    cases ht

/-- A type that does not start afresh has the particle of its base and then its own. -/
theorem particle_of_extension {t : ComplexType} {method : DerivationMethod} {base : Name} {inherited c : Content}
    (hd : t.derivation = some ⟨method, base⟩) (ht : ¬ t.StartsAfresh)
    (h : s.ownContent t (inherited.inherited method t) = .ok c) :
    c.particle = .sequenceOf inherited.particle t.own := by
  obtain ⟨hsimple, hmethod⟩ := not_or.1 ht
  cases method with
  | restriction => exact absurd ⟨base, hd⟩ hmethod
  | extension =>
    rw [particle_of_ownContent h, ComplexType.own, if_neg hsimple, if_neg hsimple]
    congr 1
    refine if_pos ⟨rfl, ?_⟩
    simpa using hsimple

/-- The content of a type leads to what the particles of its chain lead to from the last beginning on. -/
theorem gather_particle {chain : List ComplexType} {t : ComplexType} (hchain : s.Chain chain t) {within : List Name}
    {c : Content} (hc : s.complexContent within t = .ok c) {k : Nat} (hk : IsGreatest (beginnings chain) k)
    (entered : List Name) (rest : List Particle) :
    s.gather entered (c.particle :: rest) = s.gather entered ((chain.drop k).map ComplexType.own ++ rest) := by
  induction hchain generalizing within c k rest with
  | root hroot =>
    rcases complexContent_cases hc with ⟨-, hown⟩ | ⟨method, base, b, _, ht, hbase, -⟩
    · have hzero : k = 0 := Nat.lt_one_iff.1 (lt_length_of_mem_beginnings (List.cons_ne_nil _ _) hk.1)
      rw [particle_of_own hown rfl, hzero]
      rfl
    · exact absurd ⟨method, base, ht, hbase⟩ (hroot b)
  | @derived chain b t hchain hb ih =>
    rcases complexContent_cases hc with ⟨hroot, -⟩ | ⟨method, base, b', inherited, ht, hbase, -, hi, hown⟩
    · exact absurd hb (hroot b)
    obtain rfl : b' = b := BaseOf.unique ⟨method, base, ht, hbase⟩ hb
    by_cases hfresh : t.StartsAfresh
    · have hlast : k = chain.length := hk.unique (isGreatest_concat_of_fresh hchain.ne_nil hfresh)
      rw [particle_of_own hown (particle_inherited_of_fresh ht hfresh inherited), hlast, List.drop_left]
      rfl
    · rw [beginnings_concat hfresh] at hk
      have hlt : k < chain.length := lt_length_of_mem_beginnings hchain.ne_nil hk.1
      rw [particle_of_extension ht hfresh hown, gather_sequenceOf, ih hi hk, List.drop_append_of_le_length hlt.le,
        List.map_append, List.append_assoc]
      rfl

/-- A type whose content is known has a chain, and its content model is walked as the particles that the types of
the chain have themselves, in one sequence from the last beginning on: with the same declarations in the same order,
or the same fault. -/
theorem walk_content {t : ComplexType} {c : Content}
    (hc : ResolvedType.content s (.complex t) = .ok (.complex c)) :
    (∃ chain k, s.Chain chain t ∧ IsGreatest (beginnings chain) k) ∧
    ∀ chain k, s.Chain chain t → IsGreatest (beginnings chain) k →
      (s.walk c.particle).result =
        (s.walk (.group .sequence ((chain.drop k).map ComplexType.own))).result := by
  rw [content_eq_ok] at hc
  constructor
  · obtain ⟨chain, hchain⟩ := exists_chain hc
    obtain ⟨k, hk⟩ := exists_isGreatest_beginnings hchain.ne_nil
    exact ⟨chain, k, hchain, hk⟩
  · intro chain k hchain hk
    rw [result_walk, result_walk, gather_group]
    exact gather_particle hchain hc hk [] []

/-- A letter, a restriction of it whose content is a named group, and an extension of the restriction. -/
def letter : ComplexType := ⟨some (.plain "letter"), none, false, .localElement (.simple (.plain "draft") .any), []⟩

def shortLetter : ComplexType :=
  ⟨some (.plain "short"), some ⟨.restriction, .plain "letter"⟩, false, .groupRef (.plain "parts"), []⟩

def signedLetter : ComplexType :=
  ⟨some (.plain "signed"), some ⟨.extension, .plain "short"⟩, false, .localElement (.simple (.plain "name") .any), []⟩

def letters : Schema :=
  { Schema.empty with
    types := ⟨[(.plain "letter", .complex letter), (.plain "short", .complex shortLetter),
      (.plain "signed", .complex signedLetter)], by decide⟩
    groups := ⟨[(.plain "parts", .group .choice [.localElement (.simple (.plain "text") .any),
      .groupRef (.plain "parts")])], by decide⟩ }

/-- A type that lists no attributes has its content if its base has. -/
theorem exists_content_of_derived {within : List Name} {t b : ComplexType} {method : DerivationMethod} {base : Name}
    (ht : t.derivation = some ⟨method, base⟩) (hb : s.typeNamed base = .ok (.complex b)) (hn : base ∉ within)
    (hnone : t.attributes = []) (hi : ∃ c, s.complexContent (base :: within) b = .ok c) :
    ∃ c, s.complexContent within t = .ok c := by
  obtain ⟨hspace, hget⟩ := typeNamed_eq_complex.1 hb
  obtain ⟨inherited, hi⟩ := hi
  rw [complexContent_of_complex ht hspace hget hn, hi, Result.ok_bind, ownContent, hnone, applyAttributes, edits]
  exact ⟨_, rfl⟩

theorem walk_content_letters : ∃ c, ResolvedType.content letters (.complex signedLetter) = .ok (.complex c) ∧
    letters.Chain [letter, shortLetter, signedLetter] signedLetter ∧
    IsGreatest (beginnings [letter, shortLetter, signedLetter]) 1 ∧
    (letters.walk c.particle).result =
      (letters.walk (.group .sequence [shortLetter.particle, signedLetter.particle])).result := by
  have hletter : letters.typeNamed (.plain "letter") = .ok (.complex letter) :=
    typeNamed_eq_complex.2 ⟨by decide, rfl⟩
  have hshort : letters.typeNamed (.plain "short") = .ok (.complex shortLetter) :=
    typeNamed_eq_complex.2 ⟨by decide, rfl⟩
  obtain ⟨c, hc⟩ : ∃ c, letters.complexContent signedLetter.name.toList signedLetter = .ok c := by
    refine exists_content_of_derived rfl hshort (by decide) rfl ?_
    refine exists_content_of_derived rfl hletter (by decide) rfl ?_
    rw [complexContent_of_plain rfl, ownContent, applyAttributes, letter, edits]
    exact ⟨_, rfl⟩
  have hchain : letters.Chain [letter, shortLetter, signedLetter] signedLetter := by
    have hroot (b : ComplexType) : ¬ letters.BaseOf letter b := by
      rintro ⟨_, _, h, -⟩
      cases h
    exact ((Chain.root hroot).derived ⟨.restriction, _, rfl, hletter⟩).derived ⟨.extension, _, rfl, hshort⟩
  have hbeginning : IsGreatest (beginnings [letter, shortLetter, signedLetter]) 1 := by
    have hrestriction : IsGreatest (beginnings ([letter] ++ [shortLetter])) 1 :=
      isGreatest_concat_of_fresh (List.cons_ne_nil _ _) (.inr ⟨_, rfl⟩)
    have hextension : ¬ signedLetter.StartsAfresh := by
      rintro (h | ⟨_, h⟩) <;> cases h
    rw [← beginnings_concat hextension] at hrestriction
    exact hrestriction
  have hcontent := content_eq_ok.2 hc
  exact ⟨c, hcontent, hchain, hbeginning, (walk_content hcontent).2 _ 1 hchain hbeginning⟩

end SchemaHints.Schema
