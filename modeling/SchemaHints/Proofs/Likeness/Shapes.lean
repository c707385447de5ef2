/-
Shapes of schemas that are alike. A shape tells the names that are declared and the values that are enumerated, and
nothing of the names in references. So a walk of alike particles leads to alike declarations, an extraction gives the
same shape, and a build the same graph, or both sides fail with faults of one kind.
-/
import SchemaHints.Proofs.Fault.Building
import SchemaHints.Proofs.Likeness.Tables

namespace SchemaHints.Schema

open Result

variable {L : Likeness}

theorem firstOfEachName_alike (seen : List Name) {ds ds' : List ElementDecl}
    (h : List.Forall₂ (ElementDecl.Alike L) ds ds') :
    List.Forall₂ (ElementDecl.Alike L) (firstOfEachName seen ds) (firstOfEachName seen ds') := by
  induction h generalizing seen with
  | nil => exact .nil
  | cons hd _ ih =>
    rw [firstOfEachName, firstOfEachName, hd.name.1]
    split
    · exact ih seen
    · exact .cons hd (ih _)

theorem map_name_alike {ds ds' : List ElementDecl} (h : List.Forall₂ (ElementDecl.Alike L) ds ds') :
    ds'.map (·.name) = ds.map (·.name) := map_eq_of_forall₂ (fun _ _ hd => hd.name.1) h

theorem Particle.Alike.isLeaf {p p' : Particle} (h : p.Alike L p') (hp : p.IsLeaf) : p'.IsLeaf := by
  cases h with
  | group | groupRef => exact hp.elim
  | _ => trivial

theorem result_buildFrom_of_mem {s : Schema} {count : Nat} {graph : ShapeGraph} {d : ElementDecl}
    {rest : List ElementDecl} (hp : s.CoversAll (d :: rest)) (hd : d.name ∈ graph.keys) (hrest : s.CoversAll rest) :
    s.buildFrom count graph (d :: rest) hp = s.buildFrom count graph rest hrest := by
  rw [Schema.buildFrom, dif_pos hd]

/-- A build goes on with the shape and the children of the first new declaration. -/
theorem result_buildFrom_of_ok {s : Schema} {count : Nat} {graph : ShapeGraph} {d : ElementDecl}
    {rest children : List ElementDecl} {shape : ElementShape} (hp : s.CoversAll (d :: rest)) (hd : d.name ∉ graph.keys)
    (h : (s.extract d (graph.size < count)).result = .ok (shape, children)) (hmore : s.CoversAll (rest ++ children)) :
    (s.buildFrom count graph (d :: rest) hp).result =
      (s.buildFrom count (graph.insert shape.name shape) (rest ++ children) hmore).result := by
  rw [← result_extractNext] at h
  rw [Schema.buildFrom, dif_neg hd]
  simp only
  split
  · rename_i reason hr
    cases hr.symm.trans h
  · rename_i shape' children' hr
    cases hr.symm.trans h
    rfl

namespace AlikeBy

variable {s s' : Schema} (h : s.AlikeBy L s')

include h

/-! ## Walks -/

theorem leafDeclarations {p p' : Particle} (hp : p.Alike L p') :
    Agree (List.Forall₂ (ElementDecl.Alike L)) (s.leafDeclarations p) (s'.leafDeclarations p') := by
  cases hp with
  | elementRef hn =>
    exact (find_alike h.elements .elements hn).bind fun _ _ hd => .ok (.cons hd (h.substitutionMembers hd))
  | localElement hd => exact .ok (.cons hd .nil)
  | unsupported => exact agree_fail rfl
  | group | groupRef | any | empty => exact .ok .nil

theorem gather {entered : List Name} (hentered : ∀ m ∈ entered, L.declares m) {ps ps' : List Particle}
    (hps : List.Forall₂ (Particle.Alike L) ps ps') :
    Agree (List.Forall₂ (ElementDecl.Alike L)) (s.gather entered ps) (s'.gather entered ps') := by
  fun_induction Schema.gather s entered ps generalizing ps' with
  | case1 =>
    cases hps
    rw [gather_nil]
    exact .ok .nil
  | case2 entered compositor items rest ih =>
    cases hps with
    | cons hp hrest =>
      cases hp with
      | group hitems =>
        rw [gather_group]
        exact ih hentered (List.rel_append hitems hrest)
  | case3 entered n rest hn ih =>
    cases hps with
    | cons hp hrest =>
      cases hp with
      | groupRef href =>
        rw [gather_closed ((L.mem_iff href hentered).2 hn)]
        exact ih hentered hrest
  | case4 entered n rest hn hget =>
    cases hps with
    | cons hp hrest =>
      cases hp with
      | groupRef href =>
        rw [gather_undefined (mt (L.mem_iff href hentered).1 hn) (h.groups.get?_of_none href hget)]
        exact agree_fail rfl
  | case5 entered n rest hn p hget ih =>
    cases hps with
    | cons hp hrest =>
      cases hp with
      | groupRef href =>
        obtain ⟨rfl, hdeclares, p', hget', hp⟩ := h.groups.get?_of_some href hget
        rw [gather_groupRef hn hget']
        exact ih (List.forall_mem_cons.2 ⟨hdeclares, hentered⟩) (.cons hp hrest)
  | case6 entered p rest hg hr ih =>
    cases hps with
    | cons hp hrest =>
      rw [gather_leaf (hp.isLeaf (isLeaf_of_not_group hg hr))]
      exact (h.leafDeclarations hp).bind fun _ _ hds => (ih hentered hrest).bind fun _ _ hrest =>
        .ok (List.rel_append hds hrest)

theorem walk {p p' : Particle} (hp : p.Alike L p') :
    Agree (List.Forall₂ (ElementDecl.Alike L)) (s.walk p).result (s'.walk p').result := by
  rw [result_walk, result_walk]
  exact h.gather (List.forall_mem_nil _) (.cons hp .nil)

/-! ## Extractions -/

theorem extractAttributes {as as' : List AttributeDecl} (has : List.Forall₂ (AttributeDecl.Alike L) as as') :
    Agree Eq (s.extractAttributes as).result (s'.extractAttributes as').result := by
  induction has with
  | nil => exact .ok rfl
  | @cons a a' _ _ ha _ ih =>
    have hattribute : Agree Eq (s.extractAttribute a) (s'.extractAttribute a') := by
      refine (h.enumeration ha).bind fun values _ hvalues => .ok ?_
      rw [← hvalues, ha.name.1]
    simp only [Schema.extractAttributes, Traced.result_bind, Traced.result_lift, Traced.result_line,
      Traced.result_pure, Result.ok_bind]
    refine hattribute.bind fun _ _ hshape => ih.bind fun _ _ hshapes => .ok ?_
    rw [hshape, hshapes]

/-- The same shape, and alike declarations of the children. -/
theorem extract {e e' : ElementDecl} (he : e.Alike L e') (isTopLevel : Bool) :
    Agree (fun x x' => x'.1 = x.1 ∧ List.Forall₂ (ElementDecl.Alike L) x.2 x'.2) (s.extract e isTopLevel).result
      (s'.extract e' isTopLevel).result := by
  rw [result_extract, result_extract]
  refine (h.contentType he).bind fun type type' htype => ?_
  cases htype with
  | simple =>
    refine .ok ⟨?_, .nil⟩
    rw [he.name.1]
  | complex hcontent =>
    refine (h.extractAttributes hcontent.attributes.values).bind fun attributes _ hattributes => ?_
    refine (h.walk hcontent.particle).bind fun ds ds' hds => ?_
    have hchildren := firstOfEachName_alike [] hds
    refine .ok ⟨?_, hchildren⟩
    rw [← hattributes, he.name.1, map_name_alike hchildren]

/-! ## Builds -/

theorem buildFrom {count : Nat} {graph : ShapeGraph} {pending pending' : List ElementDecl} (hp : s.CoversAll pending)
    (hp' : s'.CoversAll pending') (hpending : List.Forall₂ (ElementDecl.Alike L) pending pending') :
    Agree Eq (s.buildFrom count graph pending hp).result (s'.buildFrom count graph pending' hp').result := by
  fun_induction Schema.buildFrom s count graph pending hp generalizing pending' with
  | case1 graph =>
    cases hpending
    rw [Schema.buildFrom]
    exact .ok rfl
  | case2 graph d rest hp hd hp'' ih =>
    cases hpending with
    | cons hdd' hrest =>
      rw [result_buildFrom_of_mem hp' (hdd'.name.1 ▸ hd) fun e he => hp' e (List.mem_cons_of_mem _ he)]
      exact ih _ hrest
  | case3 graph d rest hp hd step reason hstep =>
    cases hpending with
    | @cons _ d' _ rest' hdd' hrest =>
      have hd' : d'.name ∉ graph.keys := hdd'.name.1 ▸ hd
      have hextract := h.extract hdd' (graph.size < count)
      rw [← result_extractNext, hstep] at hextract
      generalize hstep' : (s'.extract d' (graph.size < count)).result = step' at hextract
      cases hextract with
      | error hkind =>
        rw [result_buildFrom_of_error hp' hd' hstep']
        exact .error hkind
  | case4 graph d rest hp hd step shape children hstep more =>
    rename_i ih
    cases hpending with
    | @cons _ d' _ rest' hdd' hrest =>
      have hd' : d'.name ∉ graph.keys := hdd'.name.1 ▸ hd
      have hextract := h.extract hdd' (graph.size < count)
      rw [← result_extractNext, hstep] at hextract
      generalize hstep' : (s'.extract d' (graph.size < count)).result = step' at hextract
      cases hextract with
      | @ok _ x' hx =>
        obtain ⟨shape', children'⟩ := x'
        obtain ⟨rfl, hchildren⟩ : shape' = shape ∧ _ := hx
        have hscope := extractNext_scope (hp' d' (List.mem_cons_self ..)) hstep'
        have hmore : s'.CoversAll (rest' ++ children') :=
          List.forall_mem_append.2 ⟨fun e he => hp' e (List.mem_cons_of_mem _ he), hscope.2⟩
        rw [result_buildFrom_of_ok hp' hd' hstep' hmore]
        exact ih hmore (List.rel_append hrest hchildren)

/-- The same shape graph is built. -/
theorem build : Agree Eq s.build.result s'.build.result := by
  unfold Schema.build
  rw [h.elements.size]
  exact h.buildFrom _ _ h.elements.values

end AlikeBy

end SchemaHints.Schema
