/-
Reading elements that are alike. A reader sees of an element its local name, its attributes without a namespace,
the names that texts stand for there, and its children; and of the place of a document nothing but where to say
that a fault is. So elements that agree in this are read as components that are alike, or both cannot be read.

There is one lemma for each reader, along its recursion over the first of the two trees.
-/
import SchemaHints.Proofs.Fault.Result
import SchemaHints.Proofs.Likeness.Component

namespace SchemaHints

open Result

/-! ## Alike elements -/

namespace Xml

/-- What a text stands for in two places: names that refer to each other, or nothing in both. -/
inductive ResolvedAlike (L : Likeness) : Except Cause Name → Except Cause Name → Prop
  | ok {n n' : Name} : L.refers n n' → ResolvedAlike L (.ok n) (.ok n')
  | error {cause cause' : Cause} : ResolvedAlike L (.error cause) (.error cause')

/-- Trees of one form whose nodes have the same local names and the same attributes without a namespace, and in
which every text stands for names that refer to each other. -/
inductive Element.Alike (L : Likeness) : Element → Element → Prop
  | mk {name name' : Name} {attributes attributes' : List (Name × String)} {bindings bindings' : Bindings}
    {children children' : List Element} : name'.localName = name.localName →
    (∀ key, attributes'.lookup (.plain key) = attributes.lookup (.plain key)) →
    (∀ text, ResolvedAlike L (bindings.resolve text) (bindings'.resolve text)) →
    List.Forall₂ (Element.Alike L) children children' →
      Element.Alike L ⟨name, attributes, bindings, children⟩ ⟨name', attributes', bindings', children'⟩

namespace Element.Alike

variable {L : Likeness} {e e' : Element}

theorem localName (h : e.Alike L e') : e'.name.localName = e.name.localName := by
  cases h
  assumption

theorem attribute? (h : e.Alike L e') (key : String) : e'.attribute? key = e.attribute? key := by
  cases h with
  | mk _ hattributes => exact hattributes key

theorem resolve (h : e.Alike L e') (text : String) : ResolvedAlike L (e.resolve text) (e'.resolve text) := by
  cases h with
  | mk _ _ hresolve => exact hresolve _

theorem children (h : e.Alike L e') : List.Forall₂ (Element.Alike L) e.children e'.children := by
  cases h
  assumption

end Element.Alike

mutual

theorem Element.alike_refl (L : Likeness) : ∀ e : Element, e.Alike L e
  | ⟨_, _, bindings, children⟩ => by
    refine .mk rfl (fun _ => rfl) (fun text => ?_) (Element.alike_refl_all L children)
    cases bindings.resolve text with
    | ok n => exact .ok (L.refl n)
    | error cause => exact .error

theorem Element.alike_refl_all (L : Likeness) : ∀ es : List Element, List.Forall₂ (Element.Alike L) es es
  | [] => .nil
  | e :: es => .cons (Element.alike_refl L e) (Element.alike_refl_all L es)

end

end Xml

namespace Schema

open Xml (Element)

variable {L : Likeness}

/-! ## Names -/

/-- Settings of documents that may stand in different places: everything declared there can be declared. -/
structure Setting.Alike (L : Likeness) (s s' : Setting) : Prop where
  target : s'.target = s.target
  adopts : s'.adopts = s.adopts
  qualifiesElements : s'.qualifiesElements = s.qualifiesElements
  qualifiesAttributes : s'.qualifiesAttributes = s.qualifiesAttributes
  blocksSubstitution : s'.blocksSubstitution = s.blocksSubstitution
  declares : ∀ l, L.declares ⟨s.target, l⟩

namespace Setting.Alike

variable {s s' : Setting} {e e' : Element} (hs : s.Alike L s')

include hs

theorem adopt {n n' : Name} (h : L.refers n n') : L.refers (s.adopt n) (s'.adopt n') := by
  have hplain {m m' : Name} (hm : L.refers m m') (hnone : m.space = "") : m' = m := by
    obtain ⟨space, l⟩ := m
    obtain rfl : space = "" := hnone
    exact L.eq_of_left hm (L.plain l)
  unfold Setting.adopt
  rw [hs.adopts, hs.target, L.localName h]
  by_cases hn : n.space = ""
  · rw [hplain h hn]
    split
    · exact L.refl _
    · exact L.refl _
  · have hn' : n'.space ≠ "" := by
      intro hnone
      obtain ⟨space, l⟩ := n'
      obtain rfl : space = "" := hnone
      exact hn (L.eq_of_right h (L.plain l) ▸ rfl)
    rw [if_neg fun hand => hn hand.2, if_neg fun hand => hn' hand.2]
    exact h

omit hs in
theorem required (he : e.Alike L e') (key : String) : Agree Eq (s.required e key) (s'.required e' key) := by
  unfold Setting.required
  rw [he.attribute?]
  cases e.attribute? key with
  | none => exact agree_failAt rfl
  | some value => exact .ok rfl

theorem resolve (he : e.Alike L e') (value : String) :
    Agree L.refers (s.resolve e value) (s'.resolve e' value) := by
  have hresolve := he.resolve value
  unfold Setting.resolve
  revert hresolve
  generalize e.resolve value = name
  generalize e'.resolve value = name'
  intro hresolve
  cases hresolve with
  | ok h => exact .ok (hs.adopt h)
  | error => exact agree_failAt rfl

theorem resolve? (he : e.Alike L e') (key : String) :
    Agree (Option.Rel L.refers) (s.resolve? e key) (s'.resolve? e' key) := by
  unfold Setting.resolve?
  rw [he.attribute?]
  cases e.attribute? key with
  | none => exact .ok .none
  | some value => exact (hs.resolve he value).bind fun n n' hn => .ok (.some hn)

theorem globalName (he : e.Alike L e') : Agree L.Declared (s.globalName e) (s'.globalName e') := by
  refine (required he "name").bind fun l _ hl => .ok ?_
  rw [← hl, hs.target]
  exact ⟨rfl, hs.declares l⟩

theorem localName (he : e.Alike L e') (qualifiesByDefault : Bool) :
    Agree L.Declared (s.localName e qualifiesByDefault) (s'.localName e' qualifiesByDefault) := by
  refine (required he "name").bind fun l _ hl => .ok ?_
  have hdeclares (qualified : Bool) : L.declares (if qualified then ⟨s.target, l⟩ else .plain l) := by
    cases qualified with
    | true => exact hs.declares l
    | false => exact L.plain l
  rw [← hl, he.attribute?, hs.target]
  exact ⟨rfl, hdeclares _⟩

end Setting.Alike

theorem alike_ofName {n n' : Name} (h : L.refers n n') : (TypeRef.ofName n).Alike L (TypeRef.ofName n') := by
  unfold TypeRef.ofName
  rw [L.localName h, L.builtin h]
  split
  · exact .any
  · exact .named h

variable {s s' : Setting}

/-! ## Simple types -/

theorem values_of_alike {e e' : Element} (he : e.Alike L e') :
    (e'.childrenNamed "enumeration").filterMap (·.attribute? "value") =
      (e.childrenNamed "enumeration").filterMap (·.attribute? "value") := by
  have hchildren := he.children
  unfold Element.childrenNamed
  revert hchildren
  generalize e.children = es
  generalize e'.children = es'
  intro hchildren
  induction hchildren with
  | nil => rfl
  | cons h _ ih =>
    rw [List.filter_cons, List.filter_cons, h.localName]
    split
    · rw [List.filterMap_cons, List.filterMap_cons, h.attribute?, ih]
    · exact ih

mutual

theorem readSimpleType_alike (hs : s.Alike L s') (name : Option Name) : ∀ {e e' : Element}, e.Alike L e' →
    Agree (SimpleType.Alike L) (readSimpleType s name e) (readSimpleType s' name e')
  | ⟨_, _, _, children⟩, ⟨_, _, _, children'⟩, h => by
    rw [readSimpleType, readSimpleType]
    refine (readVariety_alike hs h.children).bind fun v v' hv => ?_
    cases hv with
    | none => exact agree_failAt rfl
    | some hv => exact .ok (.mk hv)

theorem readVariety_alike (hs : s.Alike L s') : ∀ {es es' : List Element}, List.Forall₂ (Element.Alike L) es es' →
    Agree (Option.Rel (Variety.Alike L)) (readVariety s es) (readVariety s' es')
  | [], _, .nil => by
    rw [readVariety, readVariety]
    exact .ok .none
  | ⟨name, _, _, children⟩ :: rest, ⟨name', _, _, children'⟩ :: rest', .cons h hrest => by
    have hvalues := values_of_alike h
    have hname : name'.localName = name.localName := h.localName
    rw [readVariety, readVariety, hname, hvalues]
    generalize Word.of name.localName = word
    cases word with
    | derivation method =>
      cases method with
      | extension => exact readVariety_alike hs hrest
      | restriction =>
        refine (hs.resolve? h "base").bind fun n n' hn => ?_
        cases hn with
        | none => exact (readInlineSimple_alike hs h.children).bind fun _ _ hb => .ok (.some (.restriction hb))
        | some hn => exact .ok (.some (.restriction (.some (alike_ofName hn))))
    | list => exact .ok (.some .list)
    | union => exact .ok (.some .union)
    | _ => exact readVariety_alike hs hrest

theorem readInlineSimple_alike (hs : s.Alike L s') : ∀ {es es' : List Element}, List.Forall₂ (Element.Alike L) es es' →
    Agree (Option.Rel (TypeRef.Alike L)) (readInlineSimple s es) (readInlineSimple s' es')
  | [], _, .nil => by
    rw [readInlineSimple, readInlineSimple]
    exact .ok .none
  | ⟨name, _, _, _⟩ :: rest, ⟨name', _, _, _⟩ :: rest', .cons h hrest => by
    have htype := readSimpleType_alike hs none h
    have hname : name'.localName = name.localName := h.localName
    rw [readInlineSimple, readInlineSimple, hname]
    generalize Word.of name.localName = word
    cases word with
    | simpleType => exact htype.bind fun t t' ht => .ok (.some (.inline (.simple ht)))
    | _ => exact readInlineSimple_alike hs hrest

end

/-! ## Attributes -/

section Attributes

variable {e e' : Element} (hs : s.Alike L s') (he : e.Alike L e')

include hs he

theorem readAttributeType_alike :
    Agree (Option.Rel (TypeRef.Alike L)) (readAttributeType s e) (readAttributeType s' e') := by
  refine (hs.resolve? he "type").bind fun n n' hn => ?_
  cases hn with
  | none => exact readInlineSimple_alike hs he.children
  | some hn => exact .ok (.some (alike_ofName hn))

theorem readAttributeItem_alike :
    Agree (Option.Rel (AttributeItem.Alike L)) (readAttributeItem s e) (readAttributeItem s' e') := by
  unfold readAttributeItem
  rw [he.localName]
  generalize Word.of e.name.localName = word
  cases word with
  | attributeUse =>
    refine (hs.resolve? he "ref").bind fun n n' hn => ?_
    rw [he.attribute?]
    cases hn with
    | some hn => exact .ok (.some (.attributeRef hn))
    | none =>
      rw [hs.qualifiesAttributes]
      refine (hs.localName he s.qualifiesAttributes).bind fun name _ hname => ?_
      obtain ⟨rfl, hdeclares⟩ := hname
      exact (readAttributeType_alike hs he).bind fun _ _ htype => .ok (.some (.declared (.mk hdeclares htype)))
  | attributeGroup =>
    refine (Setting.Alike.required he "ref").bind fun value _ hvalue => ?_
    rw [← hvalue]
    exact (hs.resolve he value).bind fun _ _ hn => .ok (.some (.groupRef hn))
  | _ => exact .ok .none

end Attributes

theorem forall₂_toList {α β : Type} {R : α → β → Prop} {a : Option α} {b : Option β} (h : Option.Rel R a b) :
    List.Forall₂ R a.toList b.toList := by
  cases h with
  | none => exact .nil
  | some h => exact .cons h .nil

theorem readAttributeItems_alike (hs : s.Alike L s') {es es' : List Element}
    (he : List.Forall₂ (Element.Alike L) es es') :
    Agree (List.Forall₂ (AttributeItem.Alike L)) (readAttributeItems s es) (readAttributeItems s' es') := by
  induction he with
  | nil => exact .ok .nil
  | cons h _ ih =>
    exact (readAttributeItem_alike hs h).bind fun _ _ hitem => ih.bind fun _ _ hitems =>
      .ok (List.rel_append (forall₂_toList hitem) hitems)

/-! ## Content models and complex types -/

/-- Drafts of alike complex types. -/
structure Draft.Alike (L : Likeness) (d d' : Draft) : Prop where
  derivation : Option.Rel (Derivation.Alike L) d.derivation d'.derivation
  simpleContent : d'.simpleContent = d.simpleContent
  parts : List.Forall₂ (Particle.Alike L) d.parts d'.parts
  attributes : List.Forall₂ (AttributeItem.Alike L) d.attributes d'.attributes

namespace Draft.Alike

theorem of_content (simple : Option Bool) : Draft.Alike L { simpleContent := simple } { simpleContent := simple } :=
  ⟨.none, rfl, .nil, .nil⟩

theorem of_derivation {method : DerivationMethod} {base base' : Name} (h : L.refers base base') :
    Draft.Alike L { derivation := some ⟨method, base⟩ } { derivation := some ⟨method, base'⟩ } :=
  ⟨.some (.mk h), rfl, .nil, .nil⟩

theorem of_parts {ps ps' : List Particle} (h : List.Forall₂ (Particle.Alike L) ps ps') :
    Draft.Alike L { parts := ps } { parts := ps' } := ⟨.none, rfl, h, .nil⟩

theorem of_attributes {items items' : List AttributeItem} (h : List.Forall₂ (AttributeItem.Alike L) items items') :
    Draft.Alike L { attributes := items } { attributes := items' } := ⟨.none, rfl, .nil, h⟩

theorem optionRel_orElse {α β : Type} {R : α → β → Prop} {a b : Option α} {a' b' : Option β} (ha : Option.Rel R a a')
    (hb : Option.Rel R b b') : Option.Rel R (b <|> a) (b' <|> a') := by
  cases hb with
  | none => exact ha
  | some h => exact .some h

theorem append {a a' b b' : Draft} (ha : a.Alike L a') (hb : b.Alike L b') : (a ++ b).Alike L (a' ++ b') where
  derivation := optionRel_orElse ha.derivation hb.derivation
  simpleContent := by
    show (b'.simpleContent <|> a'.simpleContent) = (b.simpleContent <|> a.simpleContent)
    rw [ha.simpleContent, hb.simpleContent]
  parts := List.rel_append ha.parts hb.parts
  attributes := List.rel_append ha.attributes hb.attributes

theorem combine {ps ps' : List Particle} (h : List.Forall₂ (Particle.Alike L) ps ps') :
    (Particle.combine ps).Alike L (Particle.combine ps') := by
  match h with
  | .nil => exact .empty
  | .cons h .nil => exact h
  | .cons h (.cons h' hs) => exact .group (.cons h (.cons h' hs))

theorem complexType {d d' : Draft} (h : d.Alike L d') {name : Option Name} (hname : ∀ n ∈ name, L.declares n) :
    (d.complexType name).Alike L (d'.complexType name) := by
  unfold Draft.complexType
  rw [h.simpleContent]
  exact .mk hname h.derivation (combine h.parts) h.attributes

/-- A draft comes before the drafts of what follows. -/
theorem before {x x' : Result Draft} (hx : Agree (Draft.Alike L) x x') (d d' : Draft) (hd : d.Alike L d') :
    Agree (Draft.Alike L) (x >>= fun more => .ok (d ++ more)) (x' >>= fun more => .ok (d' ++ more)) :=
  hx.bind fun _ _ hmore => .ok (hd.append hmore)

end Draft.Alike

theorem occursNever_of_alike {e e' : Element} (he : e.Alike L e') : occursNever e' = occursNever e := by
  unfold occursNever
  rw [he.attribute?]

mutual

theorem readParticle_alike (hs : s.Alike L s') : ∀ {e e' : Element}, e.Alike L e' →
    Agree (Option.Rel (Particle.Alike L)) (readParticle s e) (readParticle s' e')
  | ⟨name, _, _, children⟩, ⟨name', _, _, children'⟩, h => by
    have hname : name'.localName = name.localName := h.localName
    rw [readParticle, readParticle, hname, occursNever_of_alike h]
    split
    · exact .ok .none
    generalize Word.of name.localName = word
    cases word with
    | element =>
      refine (hs.resolve? h "ref").bind fun n n' hn => ?_
      cases hn with
      | some hn => exact .ok (.some (.elementRef hn))
      | none =>
        simp only [hs.qualifiesElements]
        refine (hs.localName h s.qualifiesElements).bind fun _ n hn => ?_
        obtain ⟨rfl, hdeclares⟩ := hn
        have hlocal (type type' : TypeRef) (htype : type.Alike L type') :
            Option.Rel (Particle.Alike L) (some (.localElement (.simple n type)))
              (some (.localElement (.simple n type'))) :=
          .some (.localElement (.mk hdeclares htype .none))
        refine (hs.resolve? h "type").bind fun n n' hn => ?_
        cases hn with
        | none => exact (readInlineType_alike hs h.children).bind fun _ _ htype => .ok (hlocal _ _ htype)
        | some hn => exact .ok (hlocal _ _ (alike_ofName hn))
    | compositor c => exact (readParticles_alike hs h.children).bind fun _ _ hitems => .ok (.some (.group hitems))
    | group =>
      refine (Setting.Alike.required h "ref").bind fun value _ hvalue => ?_
      rw [← hvalue]
      exact (hs.resolve h value).bind fun _ _ hn => .ok (.some (.groupRef hn))
    | any => exact .ok (.some .any)
    | note => exact .ok .none
    | _ => exact .ok (.some .unsupported)
termination_by structural e => e

theorem readParticles_alike (hs : s.Alike L s') : ∀ {es es' : List Element}, List.Forall₂ (Element.Alike L) es es' →
    Agree (List.Forall₂ (Particle.Alike L)) (readParticles s es) (readParticles s' es')
  | [], _, .nil => by
    rw [readParticles, readParticles]
    exact .ok .nil
  | _ :: _, _ :: _, .cons h hrest => by
    rw [readParticles, readParticles]
    exact (readParticle_alike hs h).bind fun _ _ hp => (readParticles_alike hs hrest).bind fun _ _ hps =>
      .ok (List.rel_append (forall₂_toList hp) hps)
termination_by structural es => es

theorem readInlineType_alike (hs : s.Alike L s') : ∀ {es es' : List Element}, List.Forall₂ (Element.Alike L) es es' →
    Agree (TypeRef.Alike L) (readInlineType s es) (readInlineType s' es')
  | [], _, .nil => by
    rw [readInlineType, readInlineType]
    exact .ok .any
  | ⟨name, _, _, children⟩ :: rest, ⟨name', _, _, children'⟩ :: rest', .cons h hrest => by
    have hsimple := readSimpleType_alike hs none h
    have hname : name'.localName = name.localName := h.localName
    rw [readInlineType, readInlineType, hname]
    generalize Word.of name.localName = word
    cases word with
    | complexType =>
      exact (readDraft_alike hs h.children).bind fun _ _ hdraft => .ok (.inline (.complex (hdraft.complexType nofun)))
    | simpleType => exact hsimple.bind fun _ _ ht => .ok (.inline (.simple ht))
    | _ => exact readInlineType_alike hs hrest
termination_by structural es => es

theorem readDraft_alike (hs : s.Alike L s') : ∀ {es es' : List Element}, List.Forall₂ (Element.Alike L) es es' →
    Agree (Draft.Alike L) (readDraft s es) (readDraft s' es')
  | [], _, .nil => by
    rw [readDraft, readDraft]
    exact .ok (.of_content none)
  | ⟨name, _, _, children⟩ :: rest, ⟨name', _, _, children'⟩ :: rest', .cons h hrest => by
    have hfollowed := Draft.Alike.before (readDraft_alike hs hrest)
    have hparticle := readParticle_alike hs h
    have hitem := readAttributeItem_alike hs h
    have hname : name'.localName = name.localName := h.localName
    rw [readDraft, readDraft, hname]
    generalize Word.of name.localName = word
    cases word with
    | compositor _ | group => exact hparticle.bind fun _ _ hp => hfollowed _ _ (.of_parts (forall₂_toList hp))
    | attributeUse | attributeGroup =>
      exact hitem.bind fun _ _ hi => hfollowed _ _ (.of_attributes (forall₂_toList hi))
    | complexContent =>
      exact (readDerivations_alike hs false h.children).bind fun _ _ hd => hfollowed _ _ (.append (.of_content _) hd)
    | simpleContent =>
      exact (readDerivations_alike hs true h.children).bind fun _ _ hd => hfollowed _ _ (.append (.of_content _) hd)
    | note | anyAttribute | assertion => exact hfollowed _ _ (.of_content none)
    | _ => exact hfollowed _ _ (.of_parts (.cons .unsupported .nil))
termination_by structural es => es

theorem readDerivations_alike (hs : s.Alike L s') (simple : Bool) : ∀ {es es' : List Element},
    List.Forall₂ (Element.Alike L) es es' →
      Agree (Draft.Alike L) (readDerivations s simple es) (readDerivations s' simple es')
  | [], _, .nil => by
    rw [readDerivations, readDerivations]
    exact .ok (.of_content none)
  | ⟨name, _, _, children⟩ :: rest, ⟨name', _, _, children'⟩ :: rest', .cons h hrest => by
    have hfollowed := Draft.Alike.before (readDerivations_alike hs simple hrest)
    have hname : name'.localName = name.localName := h.localName
    rw [readDerivations, readDerivations, hname]
    generalize Word.of name.localName = word
    cases word with
    | derivation method =>
      refine (Setting.Alike.required h "base").bind fun value _ hvalue => ?_
      rw [← hvalue]
      refine (hs.resolve h value).bind fun base base' hbase => ?_
      exact (readDerived_alike hs simple h.children).bind fun _ _ hd => hfollowed _ _ (.append (.of_derivation hbase) hd)
    | _ => exact hfollowed _ _ (.of_content none)
termination_by structural es => es

theorem readDerived_alike (hs : s.Alike L s') (simple : Bool) : ∀ {es es' : List Element},
    List.Forall₂ (Element.Alike L) es es' → Agree (Draft.Alike L) (readDerived s simple es) (readDerived s' simple es')
  | [], _, .nil => by
    rw [readDerived, readDerived]
    exact .ok (.of_content none)
  | ⟨name, _, _, children⟩ :: rest, ⟨name', _, _, children'⟩ :: rest', .cons h hrest => by
    have hfollowed := Draft.Alike.before (readDerived_alike hs simple hrest)
    have hparticle := readParticle_alike hs h
    have hitem := readAttributeItem_alike hs h
    have hname : name'.localName = name.localName := h.localName
    rw [readDerived, readDerived, hname]
    generalize Word.of name.localName = word
    cases word with
    | attributeUse | attributeGroup =>
      exact hitem.bind fun _ _ hi => hfollowed _ _ (.of_attributes (forall₂_toList hi))
    | note | anyAttribute | assertion => exact hfollowed _ _ (.of_content none)
    | _ =>
      cases simple with
      | true => exact hfollowed _ _ (.of_content none)
      | false => exact hparticle.bind fun _ _ hp => hfollowed _ _ (.of_parts (forall₂_toList hp))
termination_by structural es => es

end

theorem readComplexType_alike (hs : s.Alike L s') {name : Option Name} (hname : ∀ n ∈ name, L.declares n)
    {e e' : Element} (he : e.Alike L e') :
    Agree (ComplexType.Alike L) (readComplexType s name e) (readComplexType s' name e') :=
  (readDraft_alike hs he.children).bind fun _ _ hdraft => .ok (hdraft.complexType hname)

theorem readElementType_alike (hs : s.Alike L s') {e e' : Element} (he : e.Alike L e') :
    Agree (TypeRef.Alike L) (readElementType s e) (readElementType s' e') := by
  refine (hs.resolve? he "type").bind fun n n' hn => ?_
  cases hn with
  | none => exact readInlineType_alike hs he.children
  | some hn => exact .ok (alike_ofName hn)

theorem readGroup_alike (hs : s.Alike L s') {e e' : Element} (he : e.Alike L e') :
    Agree (Particle.Alike L) (readGroup s e) (readGroup s' e') := by
  have hchildren := he.children
  unfold readGroup
  revert hchildren
  generalize e.children = es
  generalize e'.children = es'
  intro hchildren
  induction hchildren with
  | nil => exact .ok .empty
  | @cons c c' _ _ h _ ih =>
    rw [List.findSome?_cons, List.findSome?_cons, h.localName]
    cases Compositor.ofTag? c.name.localName with
    | none => exact ih
    | some compositor => exact (readParticles_alike hs h.children).bind fun _ _ hitems => .ok (.group hitems)

/-! ## Documents -/

/-- Items that contribute alike components under the same names. -/
inductive Item.Alike (L : Likeness) : Item → Item → Prop
  | element {d d' : ElementDecl} : d.Alike L d' → Item.Alike L (.element d) (.element d')
  | type {n : Name} {d d' : TypeDef} : L.declares n → d.Alike L d' → Item.Alike L (.type n d) (.type n d')
  | group {n : Name} {p p' : Particle} : L.declares n → p.Alike L p' → Item.Alike L (.group n p) (.group n p')
  | attributes {n : Name} {items items' : List AttributeItem} : L.declares n →
    List.Forall₂ (AttributeItem.Alike L) items items' → Item.Alike L (.attributes n items) (.attributes n items')
  | globalAttribute {d d' : AttributeDecl} : d.Alike L d' → Item.Alike L (.globalAttribute d) (.globalAttribute d')
  | reference {r : Reference} : Item.Alike L (.reference r) (.reference r)
  | skipped {tag : String} : Item.Alike L (.skipped tag) (.skipped tag)
  | nothing : Item.Alike L .nothing .nothing

theorem readGlobalElement_alike (hs : s.Alike L s') {e e' : Element} (he : e.Alike L e') :
    Agree (ElementDecl.Alike L) (readGlobalElement s e) (readGlobalElement s' e') := by
  refine (hs.globalName he).bind fun _ n hn => ?_
  obtain ⟨rfl, hdeclares⟩ := hn
  refine (readElementType_alike hs he).bind fun type type' htype => ?_
  refine (hs.resolve? he "substitutionGroup").bind fun head head' hhead => .ok ?_
  rw [he.attribute?, hs.blocksSubstitution]
  exact .mk hdeclares htype hhead

theorem readItem_alike (hs : s.Alike L s') {e e' : Element} (he : e.Alike L e') :
    Agree (Item.Alike L) (readItem s e) (readItem s' e') := by
  unfold readItem
  rw [he.localName]
  generalize Word.of e.name.localName = word
  cases word with
  | element => exact (readGlobalElement_alike hs he).bind fun _ _ h => .ok (.element h)
  | complexType =>
    refine (hs.globalName he).bind fun _ n hn => ?_
    obtain ⟨rfl, hdeclares⟩ := hn
    have hname : ∀ m ∈ some n, L.declares m := by
      rintro _ ⟨⟩
      exact hdeclares
    exact (readComplexType_alike hs hname he).bind fun _ _ h => .ok (.type hdeclares (.complex h))
  | simpleType =>
    refine (hs.globalName he).bind fun _ n hn => ?_
    obtain ⟨rfl, hdeclares⟩ := hn
    exact (readSimpleType_alike hs (some n) he).bind fun _ _ h => .ok (.type hdeclares (.simple h))
  | group =>
    refine (hs.globalName he).bind fun _ n hn => ?_
    obtain ⟨rfl, hdeclares⟩ := hn
    exact (readGroup_alike hs he).bind fun _ _ h => .ok (.group hdeclares h)
  | attributeGroup =>
    refine (hs.globalName he).bind fun _ n hn => ?_
    obtain ⟨rfl, hdeclares⟩ := hn
    exact (readAttributeItems_alike hs he.children).bind fun _ _ h => .ok (.attributes hdeclares h)
  | attributeUse =>
    refine (hs.globalName he).bind fun _ n hn => ?_
    obtain ⟨rfl, hdeclares⟩ := hn
    exact (readAttributeType_alike hs he).bind fun _ _ h => .ok (.globalAttribute (.mk hdeclares h))
  | includes | redefines =>
    refine (Setting.Alike.required he "schemaLocation").bind fun location _ hlocation => ?_
    rw [← hlocation]
    exact .ok .reference
  | imports =>
    simp only [he.attribute?]
    exact .ok .reference
  | note | notationDecl | defaultOpenContent => exact .ok .nothing
  | _ => exact .ok .skipped

theorem declaredTarget_of_alike {root root' : Element} (h : root.Alike L root') :
    declaredTarget root' = declaredTarget root := by
  unfold declaredTarget
  rw [h.attribute?]

/-- Roots of one declared namespace settle the same for their documents, wherever these stand, unless one of them is
no schema element. -/
theorem Setting.alike_of {root root' : Element} (hroot : root.Alike L root')
    (hversion : isSchemaNamespace root'.name.space = isSchemaNamespace root.name.space) (location location' : String)
    {role : Role} (hdeclared : ∀ l, L.declares ⟨declaredTarget root, l⟩)
    (hincluder : ∀ target, role = .included target → ∀ l, L.declares ⟨target, l⟩) :
    Agree (Setting.Alike L) (Setting.of root location role) (Setting.of root' location' role) := by
  unfold Setting.of
  rw [hroot.localName, hversion, declaredTarget_of_alike hroot]
  simp only [hroot.attribute?]
  split
  · exact agree_failAt rfl
  cases role with
  | primary => exact .ok ⟨rfl, rfl, rfl, rfl, rfl, hdeclared⟩
  | imported => exact .ok ⟨rfl, rfl, rfl, rfl, rfl, hdeclared⟩
  | included includer =>
    simp only
    split
    · exact .ok ⟨rfl, rfl, rfl, rfl, rfl, hincluder includer rfl⟩
    split
    · exact .ok ⟨rfl, rfl, rfl, rfl, rfl, hdeclared⟩
    · exact agree_failAt rfl

/-- Documents of one target namespace whose items are alike. -/
structure Document.AlikeBy (L : Likeness) (d d' : Document) : Prop where
  target : d'.target = d.target
  declares : ∀ l, L.declares ⟨d.target, l⟩
  items : List.Forall₂ (Item.Alike L) d.items d'.items

theorem agree_mapM {α β γ δ : Type} {P : α → β → Prop} {R : γ → δ → Prop} {f : α → Result γ} {g : β → Result δ}
    (hf : ∀ a b, P a b → Agree R (f a) (g b)) {as : List α} {bs : List β} (h : List.Forall₂ P as bs) :
    Agree (List.Forall₂ R) (as.mapM f) (bs.mapM g) := by
  induction h with
  | nil => exact .ok .nil
  | cons h _ ih =>
    rw [List.mapM_cons, List.mapM_cons]
    exact (hf _ _ h).bind fun _ _ hc => ih.bind fun _ _ hcs => .ok (.cons hc hcs)

theorem Document.read_alike {root root' : Element} (hroot : root.Alike L root')
    (hversion : isSchemaNamespace root'.name.space = isSchemaNamespace root.name.space) (location location' : String)
    {role : Role} (hdeclared : ∀ l, L.declares ⟨declaredTarget root, l⟩)
    (hincluder : ∀ target, role = .included target → ∀ l, L.declares ⟨target, l⟩) :
    Agree (Document.AlikeBy L) (Document.read root location role) (Document.read root' location' role) := by
  refine (Setting.alike_of hroot hversion location location' hdeclared hincluder).bind fun s s' hs => ?_
  refine (agree_mapM (fun _ _ he => readItem_alike hs he) hroot.children).bind fun items items' hitems => ?_
  exact .ok ⟨hs.target, hs.declares, hitems⟩

/-! ## A document in another place -/

theorem Item.Alike.eq {item item' : Item} (h : item.Alike .exact item') : item' = item := by
  cases h with
  | element h => rw [h.eq]
  | type _ h => rw [h.eq]
  | group _ h => rw [h.eq]
  | attributes _ h => rw [items_eq_of_alike h]
  | globalAttribute h => rw [h.eq]
  | reference | skipped | nothing => rfl

theorem Document.AlikeBy.eq {d d' : Document} (h : d.AlikeBy .exact d') : d' = d := by
  obtain ⟨target, items⟩ := d
  obtain ⟨target', items'⟩ := d'
  obtain ⟨rfl, -, hitems⟩ := h
  have hequal : items = items' := List.forall₂_eq_eq_eq ▸ hitems.imp fun _ _ h => h.eq.symm
  rw [hequal]

/-- Where a document stands is told in its faults and nowhere else. -/
theorem read_elsewhere {root : Element} {location : String} {role : Role} {d : Document}
    (h : Document.read root location role = .ok d) (location' : String) :
    Document.read root location' role = .ok d := by
  have hread : Agree (Document.AlikeBy .exact) (Document.read root location role) (Document.read root location' role) :=
    Document.read_alike (Element.alike_refl _ root) rfl location location' (fun _ => trivial) fun _ _ _ => trivial
  obtain ⟨d', hd', hequal⟩ := hread.keptAs d h
  rw [hd', hequal.eq]

end Schema

end SchemaHints
