/-
Schemas that are alike. Their tables hold alike components under the same names, which are all declared, so
names that refer to each other find alike components in them, or nothing in both. What is looked up along the way of a
derivation, or through attribute groups and substitution groups, is therefore alike again, and both sides fail
together.

A name that is remembered, because a chain must not come back to it, has been found before, so it is declared and the
same on both sides.
-/
import SchemaHints.Proofs.Content.Flatten
import SchemaHints.Proofs.Fault.Result
import SchemaHints.Proofs.Likeness.Component
import SchemaHints.Schema.Substitution

namespace SchemaHints

open Result

variable {L : Likeness}

/-- Maps that give the same for what is related give the same lists. -/
theorem map_eq_of_forall₂ {α β γ : Type} {R : α → β → Prop} {f : α → γ} {g : β → γ} (hfg : ∀ a b, R a b → g b = f a)
    {as : List α} {bs : List β} (h : List.Forall₂ R as bs) : bs.map g = as.map f := by
  induction h with
  | nil => rfl
  | cons h _ ih => rw [List.map_cons, List.map_cons, hfg _ _ h, ih]

/-! ## Alike tables -/

namespace Keyed

variable {α β : Type} {R : α → β → Prop}

/-- Entries of one declared key with related values. -/
structure EntryAlike (L : Likeness) (R : α → β → Prop) (e : Name × α) (e' : Name × β) : Prop where
  key : L.Declared e.1 e'.1
  value : R e.2 e'.2

/-- Tables with related values under the same declared keys, in the same order. -/
def Alike (L : Likeness) (R : α → β → Prop) (t : Keyed Name α) (t' : Keyed Name β) : Prop :=
  List.Forall₂ (EntryAlike L R) t.entries t'.entries

theorem lookup_alike {es : List (Name × α)} {es' : List (Name × β)} (h : List.Forall₂ (EntryAlike L R) es es')
    {n n' : Name} (hn : L.refers n n') : Option.Rel R (es.lookup n) (es'.lookup n') := by
  induction h with
  | nil => exact .none
  | @cons e e' _ _ he _ ih =>
    have hiff : n' = e.1 ↔ n = e.1 := L.refers_iff_of_declares hn he.key.2
    rw [List.lookup_cons, List.lookup_cons, he.key.1]
    by_cases hk : n = e.1
    · rw [hiff.2 hk, hk, beq_self_eq_true]
      exact .some he.value
    · rw [beq_false_of_ne hk, beq_false_of_ne (mt hiff.1 hk)]
      exact ih

namespace Alike

variable {t : Keyed Name α} {t' : Keyed Name β}

theorem keys (h : Alike L R t t') : t'.keys = t.keys := map_eq_of_forall₂ (fun _ _ he => he.key.1) h

theorem values (h : Alike L R t t') : List.Forall₂ R t.values t'.values :=
  List.rel_map (fun _ _ he => he.value) h

theorem size (h : Alike L R t t') : t'.size = t.size := h.length_eq.symm

theorem declares_of_get? (h : Alike L R t t') {n : Name} {a : α} (hn : t.get? n = some a) : L.declares n := by
  have hdeclares : ∀ e ∈ t.entries, L.declares e.1 :=
    ((List.forall₂_and_left _ _).1 (h.imp fun _ _ he => ⟨he.key.2, he⟩)).1
  exact hdeclares _ (Keyed.get?_eq_some_iff.1 hn)

/-- Names that refer to each other find related values, or nothing in both tables. -/
theorem get? (h : Alike L R t t') {n n' : Name} (hn : L.refers n n') : Option.Rel R (t.get? n) (t'.get? n') :=
  lookup_alike h hn

theorem get?_of_none (h : Alike L R t t') {n n' : Name} (hn : L.refers n n') (hnone : t.get? n = none) :
    t'.get? n' = none := by
  have hrel := h.get? hn
  rw [hnone] at hrel
  generalize t'.get? n' = found at hrel
  cases hrel
  rfl

/-- What is found under a name is found on the other side under the same name. -/
theorem get?_of_some (h : Alike L R t t') {n n' : Name} (hn : L.refers n n') {a : α} (ha : t.get? n = some a) :
    n' = n ∧ L.declares n ∧ ∃ a', t'.get? n' = some a' ∧ R a a' := by
  have hdeclares := h.declares_of_get? ha
  have hrel := h.get? hn
  rw [ha] at hrel
  refine ⟨L.eq_of_left hn hdeclares, hdeclares, ?_⟩
  generalize t'.get? n' = found at hrel
  cases hrel with
  | some hvalue => exact ⟨_, rfl, hvalue⟩

theorem insertNew (h : Alike L R t t') {k : Name} (hk : L.declares k) {a : α} {a' : β} (ha : R a a') :
    Alike L R (t.insertNew k a) (t'.insertNew k a') := by
  unfold Keyed.insertNew
  by_cases hmem : k ∈ t.keys
  · rw [dif_pos hmem, dif_pos (h.keys ▸ hmem)]
    exact h
  · rw [dif_neg hmem, dif_neg (h.keys ▸ hmem)]
    exact List.rel_append h (.cons ⟨⟨rfl, hk⟩, ha⟩ .nil)

theorem insertAllNew {es : List (Name × α)} {es' : List (Name × β)} (h : Alike L R t t')
    (hes : List.Forall₂ (EntryAlike L R) es es') : Alike L R (t.insertAllNew es) (t'.insertAllNew es') := by
  induction hes generalizing t t' with
  | nil => exact h
  | @cons e e' _ _ he _ ih =>
    have hnew : Alike L R (t.insertNew e.1 e.2) (t'.insertNew e'.1 e'.2) := by
      rw [he.key.1]
      exact h.insertNew he.key.2 he.value
    exact ih hnew

theorem insert (h : Alike L R t t') {k : Name} (hk : L.declares k) {a : α} {a' : β} (ha : R a a') :
    Alike L R (t.insert k a) (t'.insert k a') := by
  unfold Keyed.insert
  by_cases hmem : k ∈ t.keys
  · rw [dif_pos hmem, dif_pos (h.keys ▸ hmem)]
    refine List.rel_map (fun e e' he => ?_) h
    rw [he.key.1]
    split
    · exact ⟨⟨rfl, he.key.2⟩, ha⟩
    · exact he
  · rw [dif_neg hmem, dif_neg (h.keys ▸ hmem)]
    exact List.rel_append h (.cons ⟨⟨rfl, hk⟩, ha⟩ .nil)

theorem erase (h : Alike L R t t') {n n' : Name} (hn : L.refers n n') : Alike L R (t.erase n) (t'.erase n') := by
  refine List.rel_filter (fun e e' he => ?_) h
  show decide (e.1 ≠ n) = true ↔ decide (e'.1 ≠ n') = true
  rw [decide_eq_true_iff, decide_eq_true_iff, he.key.1, ne_comm, @ne_comm _ e.1]
  exact not_congr (L.refers_iff_of_declares hn he.key.2).symm

end Alike

end Keyed

namespace Schema

/-- Schemas with alike components under the same declared names. -/
structure AlikeBy (L : Likeness) (s s' : Schema) : Prop where
  elements : Keyed.Alike L (ElementDecl.Alike L) s.elements s'.elements
  types : Keyed.Alike L (TypeDef.Alike L) s.types s'.types
  groups : Keyed.Alike L (Particle.Alike L) s.groups s'.groups
  attributeGroups : Keyed.Alike L (List.Forall₂ (AttributeItem.Alike L)) s.attributeGroups s'.attributeGroups
  attributes : Keyed.Alike L (AttributeDecl.Alike L) s.attributes s'.attributes
  importsXml : s'.importsXml = s.importsXml

/-- Types of one kind. -/
inductive ResolvedType.Alike (L : Likeness) : ResolvedType → ResolvedType → Prop
  | any : ResolvedType.Alike L .any .any
  | builtin : ResolvedType.Alike L .builtin .builtin
  | simple {t t' : SimpleType} : t.Alike L t' → ResolvedType.Alike L (.simple t) (.simple t')
  | complex {t t' : ComplexType} : t.Alike L t' → ResolvedType.Alike L (.complex t) (.complex t')

theorem ElementDecl.Alike.name {d d' : ElementDecl} (h : d.Alike L d') : L.Declared d.name d'.name := by
  cases h with
  | mk hdeclares _ _ => exact ⟨rfl, hdeclares⟩

theorem ElementDecl.Alike.type {d d' : ElementDecl} (h : d.Alike L d') : d.type.Alike L d'.type := by
  cases h
  assumption

theorem ElementDecl.Alike.head {d d' : ElementDecl} (h : d.Alike L d') : Option.Rel L.refers d.head d'.head := by
  cases h
  assumption

theorem ElementDecl.Alike.blocksSubstitution {d d' : ElementDecl} (h : d.Alike L d') :
    d'.blocksSubstitution = d.blocksSubstitution := by
  cases h
  rfl

theorem AttributeDecl.Alike.name {d d' : AttributeDecl} (h : d.Alike L d') : L.Declared d.name d'.name := by
  cases h with
  | mk hdeclares _ => exact ⟨rfl, hdeclares⟩

theorem find_alike {α : Type} {R : α → α → Prop} {entries entries' : Keyed Name α}
    (h : Keyed.Alike L R entries entries') (table : Table) {n n' : Name} (hn : L.refers n n') :
    Agree R (find table entries n) (find table entries' n') := by
  have hfound := h.get? hn
  unfold find
  revert hfound
  generalize entries.get? n = a
  generalize entries'.get? n' = a'
  intro hfound
  cases hfound with
  | none => exact agree_fail rfl
  | some ha => exact .ok ha

namespace AlikeBy

variable {s s' : Schema} (h : s.AlikeBy L s')

include h

/-! ## Elements and their types -/

theorem typeNamed {n n' : Name} (hn : L.refers n n') :
    Agree (ResolvedType.Alike L) (s.typeNamed n) (s'.typeNamed n') := by
  unfold Schema.typeNamed
  rw [L.builtin hn, L.localName hn]
  split
  · split
    · exact .ok .any
    · exact .ok .builtin
  · refine (find_alike h.types .types hn).bind fun d d' hd => ?_
    cases hd with
    | simple ht => exact .ok (.simple ht)
    | complex ht => exact .ok (.complex ht)

theorem resolve {r r' : TypeRef} (hr : r.Alike L r') : Agree (ResolvedType.Alike L) (s.resolve r) (s'.resolve r') := by
  cases hr with
  | named hn => exact h.typeNamed hn
  | inline hd =>
    cases hd with
    | simple ht => exact .ok (.simple ht)
    | complex ht => exact .ok (.complex ht)
  | any => exact .ok .any

theorem inheritedType {seen : List Name} (hseen : ∀ m ∈ seen, L.declares m) {head head' : Option Name}
    (hhead : Option.Rel L.refers head head') :
    Agree (ResolvedType.Alike L) (s.inheritedType seen head) (s'.inheritedType seen head') := by
  fun_induction Schema.inheritedType s seen head generalizing head' with
  | case1 =>
    cases hhead
    rw [inheritedType_none]
    exact .ok .any
  | case2 seen n hn =>
    cases hhead with
    | some href =>
      rw [inheritedType_seen ((L.mem_iff href hseen).2 hn)]
      exact .ok .any
  | case3 seen n hn hget =>
    cases hhead with
    | some href =>
      rw [inheritedType_undeclared (mt (L.mem_iff href hseen).1 hn) (h.elements.get?_of_none href hget)]
      exact agree_fail rfl
  | case4 seen n hn d hd htype ih =>
    cases hhead with
    | some href =>
      obtain ⟨rfl, hdeclares, d', hd', hdd'⟩ := h.elements.get?_of_some href hd
      have htypes := hdd'.type
      rw [htype] at htypes
      rw [inheritedType_of_head hn hd']
      generalize d'.type = type' at htypes
      cases htypes
      exact ih (List.forall_mem_cons.2 ⟨hdeclares, hseen⟩) hdd'.head
  | case5 seen n hn d hd htype =>
    cases hhead with
    | some href =>
      obtain ⟨rfl, -, d', hd', hdd'⟩ := h.elements.get?_of_some href hd
      have htypes := hdd'.type
      rw [inheritedType_of_head hn hd']
      revert htype htypes
      generalize d.type = type
      generalize d'.type = type'
      intro htype htypes
      cases htypes with
      | any => exact absurd rfl htype
      | named href => exact h.resolve (.named href)
      | inline hdef => exact h.resolve (.inline hdef)

theorem elementType {e e' : ElementDecl} (he : e.Alike L e') :
    Agree (ResolvedType.Alike L) (s.elementType e) (s'.elementType e') := by
  cases he with
  | mk hdeclares htype hhead =>
    cases htype with
    | any => exact h.inheritedType (List.forall_mem_singleton.2 hdeclares) hhead
    | named href => exact h.resolve (.named href)
    | inline hdef => exact h.resolve (.inline hdef)

theorem enumeration {a a' : AttributeDecl} (ha : a.Alike L a') : Agree Eq (s.enumeration a) (s'.enumeration a') := by
  cases ha with
  | mk _ htype =>
    cases htype with
    | none => exact .ok rfl
    | some htype =>
      refine (h.resolve htype).bind fun t t' ht => ?_
      cases ht with
      | any => exact .ok rfl
      | builtin => exact .ok rfl
      | complex _ => exact agree_fail rfl
      | simple ht =>
        cases ht with
        | mk hvariety =>
          cases hvariety with
          | restriction _ => exact .ok rfl
          | list => exact .ok rfl
          | union => exact .ok rfl

/-! ## Content -/

end AlikeBy

/-- Edits of one kind. -/
inductive Edit.Alike (L : Likeness) : Edit → Edit → Prop
  | set {d d' : AttributeDecl} : d.Alike L d' → Edit.Alike L (.set d) (.set d')
  | remove {n n' : Name} : L.refers n n' → Edit.Alike L (.remove n) (.remove n')

theorem apply_alike {edits edits' : List Edit} (h : List.Forall₂ (Edit.Alike L) edits edits')
    {t t' : Keyed Name AttributeDecl} (ht : Keyed.Alike L (AttributeDecl.Alike L) t t') :
    Keyed.Alike L (AttributeDecl.Alike L) (edits.foldl Edit.apply t) (edits'.foldl Edit.apply t') := by
  induction h generalizing t t' with
  | nil => exact ht
  | cons hedit _ ih =>
    refine ih ?_
    cases hedit with
    | @set d d' hd =>
      show Keyed.Alike L _ (t.insert d.name d) (t'.insert d'.name d')
      rw [hd.name.1]
      exact ht.insert hd.name.2 hd
    | remove hn => exact ht.erase hn

/-- Contents with alike attributes and alike particles. -/
structure Content.Alike (L : Likeness) (c c' : Content) : Prop where
  attributes : Keyed.Alike L (AttributeDecl.Alike L) c.attributes c'.attributes
  particle : c.particle.Alike L c'.particle

theorem Content.Alike.none : Content.Alike L .empty .empty := ⟨.nil, .empty⟩

theorem ComplexType.Alike.hasSimpleContent {t t' : ComplexType} (h : t.Alike L t') :
    t'.hasSimpleContent = t.hasSimpleContent := by
  cases h
  rfl

theorem ComplexType.Alike.name {t t' : ComplexType} (h : t.Alike L t') :
    t'.name = t.name ∧ ∀ n ∈ t.name.toList, L.declares n := by
  cases h with
  | mk hname _ _ _ => exact ⟨rfl, fun n hn => hname n (Option.mem_toList.1 hn)⟩

theorem ComplexType.Alike.derivation_of_none {t t' : ComplexType} (h : t.Alike L t') (hnone : t.derivation = none) :
    t'.derivation = none := by
  cases h with
  | mk _ hderivation _ _ =>
    subst hnone
    cases hderivation
    rfl

theorem ComplexType.Alike.derivation_of_some {t t' : ComplexType} (h : t.Alike L t') {method : DerivationMethod}
    {base : Name} (hbase : t.derivation = some ⟨method, base⟩) :
    ∃ base', t'.derivation = some ⟨method, base'⟩ ∧ L.refers base base' := by
  cases h with
  | mk _ hderivation _ _ =>
    subst hbase
    cases hderivation with
    | some hderivation =>
      cases hderivation with
      | mk href => exact ⟨_, rfl, href⟩

/-- Contents of one kind. -/
inductive ContentType.Alike (L : Likeness) : ContentType → ContentType → Prop
  | simple : ContentType.Alike L .simple .simple
  | complex {c c' : Content} : c.Alike L c' → ContentType.Alike L (.complex c) (.complex c')

theorem Content.Alike.inherited {c c' : Content} (h : c.Alike L c') (method : DerivationMethod) {t t' : ComplexType}
    (ht : t.Alike L t') : (c.inherited method t).Alike L (c'.inherited method t') := by
  refine ⟨h.attributes, ?_⟩
  unfold Content.inherited
  rw [ht.hasSimpleContent]
  simp only
  split
  · exact h.particle
  · exact .empty

theorem sequenceOf_alike {p p' q q' : Particle} (hp : p.Alike L p') (hq : q.Alike L q') :
    (p.sequenceOf q).Alike L (p'.sequenceOf q') := by
  have hp' := hp
  have hq' := hq
  cases hp with
  | empty => exact hq
  | _ =>
    cases hq with
    | empty => exact hp'
    | _ => exact .group (.cons hp' (.cons hq' .nil))

namespace AlikeBy

variable {s s' : Schema} (h : s.AlikeBy L s')

include h

theorem edits {within : List Name} (hwithin : ∀ m ∈ within, L.declares m) {items items' : List AttributeItem}
    (hitems : List.Forall₂ (AttributeItem.Alike L) items items') :
    Agree (List.Forall₂ (Edit.Alike L)) (s.edits within items) (s'.edits within items') := by
  fun_induction Schema.edits s within items generalizing items' with
  | case1 =>
    cases hitems
    rw [Schema.edits]
    exact .ok .nil
  | case2 within d prohibited rest ih =>
    cases hitems with
    | cons hitem hrest =>
      cases hitem with
      | declared hd =>
        rw [Schema.edits]
        refine (ih hwithin hrest).bind fun more more' hmore => .ok (.cons ?_ hmore)
        cases prohibited with
        | true =>
          show Edit.Alike L (.remove d.name) (.remove _)
          rw [hd.name.1]
          exact .remove (L.refl _)
        | false => exact .set hd
  | case3 within n rest ih =>
    cases hitems with
    | cons hitem hrest =>
      cases hitem with
      | attributeRef hn =>
        rw [Schema.edits, if_pos rfl]
        exact (ih hwithin hrest).bind fun _ _ hmore => .ok (.cons (.remove hn) hmore)
  | case4 within n prohibited rest hp ih =>
    cases hitems with
    | cons hitem hrest =>
      cases hitem with
      | attributeRef hn =>
        rw [Schema.edits, if_neg hp]
        exact (find_alike h.attributes .attributes hn).bind fun _ _ hd => (ih hwithin hrest).bind fun _ _ hmore =>
          .ok (.cons (.set hd) hmore)
  | case5 within n rest hn ih =>
    cases hitems with
    | cons hitem hrest =>
      cases hitem with
      | groupRef href =>
        rw [Schema.edits, dif_pos ((L.mem_iff href hwithin).2 hn)]
        exact ih hwithin hrest
  | case6 within n rest hn hget =>
    cases hitems with
    | cons hitem hrest =>
      cases hitem with
      | groupRef href =>
        rw [edits_of_undefined (mt (L.mem_iff href hwithin).1 hn) (h.attributeGroups.get?_of_none href hget)]
        exact agree_fail rfl
  | case7 within n rest hn items hget ihItems ih =>
    cases hitems with
    | cons hitem hrest =>
      cases hitem with
      | groupRef href =>
        obtain ⟨rfl, hdeclares, items', hget', hitems'⟩ := h.attributeGroups.get?_of_some href hget
        rw [edits_of_group hn hget']
        exact (ihItems (List.forall_mem_cons.2 ⟨hdeclares, hwithin⟩) hitems').bind fun _ _ hinner =>
          (ih hwithin hrest).bind fun _ _ hmore => .ok (List.rel_append hinner hmore)

theorem ownContent {t t' : ComplexType} (ht : t.Alike L t') {c c' : Content} (hc : c.Alike L c') :
    Agree (Content.Alike L) (s.ownContent t c) (s'.ownContent t' c') := by
  cases ht with
  | @mk _ _ _ simple _ _ _ _ _ _ hparticle hitems =>
    have happly := (h.edits (List.forall_mem_nil _) hitems).bind (Q := Keyed.Alike L (AttributeDecl.Alike L))
      fun _ _ hedits => .ok (apply_alike hedits hc.attributes)
    refine happly.bind fun attributes attributes' hattributes => .ok ⟨hattributes, ?_⟩
    cases simple with
    | true => exact hc.particle
    | false => exact sequenceOf_alike hc.particle hparticle

theorem complexContent {within : List Name} (hwithin : ∀ m ∈ within, L.declares m) {t t' : ComplexType}
    (ht : t.Alike L t') : Agree (Content.Alike L) (s.complexContent within t) (s'.complexContent within t') := by
  fun_induction Schema.complexContent s within t generalizing t' with
  | case1 within t hplain =>
    rw [complexContent_of_plain (ht.derivation_of_none hplain)]
    exact h.ownContent ht .none
  | case2 within t method base hbase hbuiltin =>
    obtain ⟨base', hbase', href⟩ := ht.derivation_of_some hbase
    rw [complexContent_of_builtin hbase' (L.builtin href ▸ hbuiltin)]
    exact h.ownContent ht .none
  | case3 within t method base hbase hbuiltin hget =>
    obtain ⟨base', hbase', href⟩ := ht.derivation_of_some hbase
    rw [complexContent_of_undefined hbase' (L.builtin href ▸ hbuiltin) (h.types.get?_of_none href hget)]
    exact agree_fail rfl
  | case4 within t method base hbase hbuiltin type hget =>
    obtain ⟨base', hbase', href⟩ := ht.derivation_of_some hbase
    obtain ⟨rfl, -, d', hget', hd⟩ := h.types.get?_of_some href hget
    cases hd
    rw [complexContent_of_simple hbase' hbuiltin hget']
    exact h.ownContent ht .none
  | case5 within t method base hbase hbuiltin baseType hget hn =>
    obtain ⟨base', hbase', href⟩ := ht.derivation_of_some hbase
    obtain ⟨rfl, -, d', hget', hd⟩ := h.types.get?_of_some href hget
    cases hd
    rw [complexContent_of_circular hbase' hbuiltin hget' hn]
    exact agree_fail rfl
  | case6 within t method base hbase hbuiltin baseType hget hn ih =>
    obtain ⟨base', hbase', href⟩ := ht.derivation_of_some hbase
    obtain ⟨rfl, hdeclares, d', hget', hd⟩ := h.types.get?_of_some href hget
    cases hd with
    | complex hbaseType =>
      rw [complexContent_of_complex hbase' hbuiltin hget' hn]
      exact (ih (List.forall_mem_cons.2 ⟨hdeclares, hwithin⟩) hbaseType).bind fun _ _ hcontent =>
        h.ownContent ht (hcontent.inherited method ht)

theorem contentType {e e' : ElementDecl} (he : e.Alike L e') :
    Agree (ContentType.Alike L) (s.contentType e) (s'.contentType e') := by
  refine (h.elementType he).bind fun type type' htype => ?_
  cases htype with
  | any => exact .ok (.complex .none)
  | builtin => exact .ok .simple
  | simple _ => exact .ok .simple
  | @complex t t' ht =>
    have hname : t'.name = t.name ∧ ∀ n ∈ t.name.toList, L.declares n := ht.name
    unfold ResolvedType.content
    simp only [hname.1]
    exact (h.complexContent hname.2 ht).bind fun _ _ hcontent => .ok (.complex hcontent)

/-! ## Substitution groups -/

theorem directMembers {n : Name} (hn : L.declares n) : s'.directMembers n = s.directMembers n := by
  unfold Schema.directMembers
  have hvalues := h.elements.values
  generalize s.elements.values = ds at hvalues
  generalize s'.elements.values = ds' at hvalues
  induction hvalues with
  | nil => rfl
  | @cons d d' _ _ hd _ ih =>
    have hhead : d'.head = some n ↔ d.head = some n := by
      cases hd with
      | mk _ _ hhead =>
        cases hhead with
        | none => exact Iff.rfl
        | some href =>
          rw [Option.some.injEq, Option.some.injEq]
          exact L.refers_iff_of_declares href hn
    rw [List.filter_cons, List.filter_cons]
    simp only [hhead]
    split
    · rw [List.map_cons, List.map_cons, hd.name.1, ih]
    · exact ih

theorem declares_directMembers {n : Name} : ∀ m ∈ s.directMembers n, L.declares m := by
  have hdeclares : ∀ d ∈ s.elements.values, L.declares d.name :=
    ((List.forall₂_and_left _ _).1 (h.elements.values.imp fun _ _ hd => ⟨hd.name.2, hd⟩)).1
  intro m hm
  obtain ⟨d, hd, rfl⟩ := List.mem_map.1 hm
  exact hdeclares d (List.mem_of_mem_filter hd)

theorem reach (head : Name) (reached : List Name) {pending : List Name} (hpending : ∀ n ∈ pending, L.declares n) :
    s'.reach head reached pending = s.reach head reached pending := by
  fun_induction Schema.reach s head reached pending with
  | case1 => rw [Schema.reach]
  | case2 reached n rest hnone ih =>
    obtain ⟨hn, hrest⟩ := List.forall_mem_cons.1 hpending
    rw [Schema.reach]
    split
    · exact ih hrest
    · rename_i hnew
      rw [h.directMembers hn, hnone] at hnew
      cases hnew
  | case3 reached n rest new news hnew ih =>
    obtain ⟨hn, hrest⟩ := List.forall_mem_cons.1 hpending
    rw [Schema.reach]
    split
    · rename_i hnone
      rw [h.directMembers hn, hnew] at hnone
      cases hnone
    · rename_i hnew'
      rw [h.directMembers hn, hnew] at hnew'
      cases hnew'
      refine ih (List.forall_mem_append.2 ⟨fun m hm => ?_, hrest⟩)
      exact h.declares_directMembers m (List.mem_of_mem_filter (hnew ▸ hm))

/-- The members of a substitution group are alike, in their order. -/
theorem substitutionMembers {d d' : ElementDecl} (hd : d.Alike L d') :
    List.Forall₂ (ElementDecl.Alike L) (s.substitutionMembers d) (s'.substitutionMembers d') := by
  unfold Schema.substitutionMembers
  rw [hd.blocksSubstitution, hd.name.1, h.reach _ _ (List.forall_mem_singleton.2 hd.name.2)]
  split
  · exact .nil
  · refine List.rel_filter (fun e e' he => ?_) h.elements.values
    show List.contains _ e.name = true ↔ List.contains _ e'.name = true
    rw [he.name.1]

end AlikeBy

end Schema

end SchemaHints
