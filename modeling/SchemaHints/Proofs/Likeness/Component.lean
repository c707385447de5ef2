/-
Components that are alike. Two schemas may call one thing by different names: a name refers to another when
whatever the one leads to the other leads to as well. Names under which something is declared take no part in
this. A declared name refers to itself alone, so a name that is looked up is the same on both sides unless neither
side declares it.

Components are alike when they are built in the same way, declare the same names, and refer to names that refer to
each other.
-/
import SchemaHints.Schema.Document
import Mathlib.Data.List.Forall2
import Mathlib.Data.Option.Basic

namespace SchemaHints

/-- Which names may stand for each other in references, and which names can be declared. -/
structure Likeness where
  refers : Name → Name → Prop
  declares : Name → Prop
  refl : ∀ n, refers n n
  localName : ∀ {n n'}, refers n n' → n'.localName = n.localName
  builtin : ∀ {n n'}, refers n n' → isSchemaNamespace n'.space = isSchemaNamespace n.space
  eq_of_left : ∀ {n n'}, refers n n' → declares n → n' = n
  eq_of_right : ∀ {n n'}, refers n n' → declares n' → n' = n
  plain : ∀ l, declares (.plain l)

namespace Likeness

/-- Every name stands for itself alone. -/
def exact : Likeness where
  refers n n' := n' = n
  declares _ := True
  refl _ := rfl
  localName h := congrArg Name.localName h
  builtin h := by rw [h]
  eq_of_left h _ := h
  eq_of_right h _ := h
  plain _ := trivial

/-- A name that is declared, on both sides. -/
def Declared (L : Likeness) (n n' : Name) : Prop := n' = n ∧ L.declares n

variable {L : Likeness}

theorem refers_iff_of_declares {n n' m : Name} (h : L.refers n n') (hm : L.declares m) : n' = m ↔ n = m := by
  constructor
  · rintro rfl
    exact (L.eq_of_right h hm).symm
  · rintro rfl
    exact L.eq_of_left h hm

/-- Of two names that refer to each other, a list of declared names holds both or neither. -/
theorem mem_iff {n n' : Name} (h : L.refers n n') {ms : List Name} (hms : ∀ m ∈ ms, L.declares m) :
    n' ∈ ms ↔ n ∈ ms := by
  constructor
  · intro hn
    exact L.eq_of_right h (hms _ hn) ▸ hn
  · intro hn
    exact (L.eq_of_left h (hms _ hn)).symm ▸ hn

end Likeness

namespace Schema

/-! ## Alike components -/

variable (L : Likeness)

/-- The same derivation from bases that refer to each other. -/
inductive Derivation.Alike : Derivation → Derivation → Prop
  | mk {method : DerivationMethod} {base base' : Name} : L.refers base base' → Alike ⟨method, base⟩ ⟨method, base'⟩

mutual

/-- Particles of the same form. -/
inductive Particle.Alike : Particle → Particle → Prop
  | group {c : Compositor} {items items' : List Particle} : List.Forall₂ Particle.Alike items items' →
    Particle.Alike (.group c items) (.group c items')
  | groupRef {n n' : Name} : L.refers n n' → Particle.Alike (.groupRef n) (.groupRef n')
  | elementRef {n n' : Name} : L.refers n n' → Particle.Alike (.elementRef n) (.elementRef n')
  | localElement {d d' : ElementDecl} : ElementDecl.Alike d d' → Particle.Alike (.localElement d) (.localElement d')
  | any : Particle.Alike .any .any
  | empty : Particle.Alike .empty .empty
  | unsupported {tag : String} : Particle.Alike (.unsupported tag) (.unsupported tag)

/-- Element declarations of one name. -/
inductive ElementDecl.Alike : ElementDecl → ElementDecl → Prop
  | mk {name : Name} {type type' : TypeRef} {head head' : Option Name} {blocks : Bool} : L.declares name →
    TypeRef.Alike type type' → Option.Rel L.refers head head' →
      ElementDecl.Alike ⟨name, type, head, blocks⟩ ⟨name, type', head', blocks⟩

/-- References to types that refer to each other, or types in place. -/
inductive TypeRef.Alike : TypeRef → TypeRef → Prop
  | named {n n' : Name} : L.refers n n' → TypeRef.Alike (.named n) (.named n')
  | inline {d d' : TypeDef} : TypeDef.Alike d d' → TypeRef.Alike (.inline d) (.inline d')
  | any : TypeRef.Alike .any .any

/-- Type definitions of one kind. -/
inductive TypeDef.Alike : TypeDef → TypeDef → Prop
  | simple {t t' : SimpleType} : SimpleType.Alike t t' → TypeDef.Alike (.simple t) (.simple t')
  | complex {t t' : ComplexType} : ComplexType.Alike t t' → TypeDef.Alike (.complex t) (.complex t')

/-- Simple types of one name. -/
inductive SimpleType.Alike : SimpleType → SimpleType → Prop
  | mk {name : Option Name} {v v' : Variety} : Variety.Alike v v' → SimpleType.Alike ⟨name, v⟩ ⟨name, v'⟩

/-- Varieties with the same values. -/
inductive Variety.Alike : Variety → Variety → Prop
  | restriction {base base' : Option TypeRef} {values : List String} : Option.Rel TypeRef.Alike base base' →
    Variety.Alike (.restriction base values) (.restriction base' values)
  | list : Variety.Alike .list .list
  | union : Variety.Alike .union .union

/-- Complex types of one name. -/
inductive ComplexType.Alike : ComplexType → ComplexType → Prop
  | mk {name : Option Name} {derivation derivation' : Option Derivation} {simple : Bool} {p p' : Particle}
    {items items' : List AttributeItem} : (∀ n ∈ name, L.declares n) →
    Option.Rel (Derivation.Alike L) derivation derivation' → Particle.Alike p p' →
    List.Forall₂ AttributeItem.Alike items items' →
      ComplexType.Alike ⟨name, derivation, simple, p, items⟩ ⟨name, derivation', simple, p', items'⟩

/-- Attribute declarations of one name. -/
inductive AttributeDecl.Alike : AttributeDecl → AttributeDecl → Prop
  | mk {name : Name} {type type' : Option TypeRef} : L.declares name → Option.Rel TypeRef.Alike type type' →
    AttributeDecl.Alike ⟨name, type⟩ ⟨name, type'⟩

/-- Entries of one kind in lists of attributes. -/
inductive AttributeItem.Alike : AttributeItem → AttributeItem → Prop
  | declared {d d' : AttributeDecl} {prohibited : Bool} : AttributeDecl.Alike d d' →
    AttributeItem.Alike (.declared d prohibited) (.declared d' prohibited)
  | attributeRef {n n' : Name} {prohibited : Bool} : L.refers n n' →
    AttributeItem.Alike (.attributeRef n prohibited) (.attributeRef n' prohibited)
  | groupRef {n n' : Name} : L.refers n n' → AttributeItem.Alike (.groupRef n) (.groupRef n')

end

/-! ## Components that are alike by name are equal -/

theorem eq_of_optionRel {α : Type} {R : α → α → Prop} {a a' : Option α} (h : Option.Rel R a a')
    (heq : ∀ x ∈ a, ∀ x', R x x' → x' = x) : a' = a := by
  cases h with
  | none => rfl
  | some h => exact congrArg some (heq _ rfl _ h)

theorem Derivation.Alike.eq {d d' : Derivation} (h : d.Alike .exact d') : d' = d := by
  cases h with
  | mk h => exact congrArg _ h

mutual

theorem Particle.Alike.eq : ∀ {p p' : Particle}, p.Alike .exact p' → p' = p
  | .group c items, _, .group h => congrArg (Particle.group c) (particles_eq_of_alike h)
  | .groupRef _, _, .groupRef h => congrArg Particle.groupRef h
  | .elementRef _, _, .elementRef h => congrArg Particle.elementRef h
  | .localElement _, _, .localElement h => congrArg Particle.localElement h.eq
  | .any, _, .any => rfl
  | .empty, _, .empty => rfl
  | .unsupported _, _, .unsupported => rfl

theorem particles_eq_of_alike : ∀ {ps ps' : List Particle}, List.Forall₂ (Particle.Alike .exact) ps ps' → ps' = ps
  | [], _, .nil => rfl
  | _ :: _, _, .cons h hs => congrArg₂ List.cons h.eq (particles_eq_of_alike hs)

theorem ElementDecl.Alike.eq : ∀ {d d' : ElementDecl}, d.Alike .exact d' → d' = d
  | ⟨name, type, head, blocks⟩, _, .mk _ htype hhead => by
    rw [htype.eq, eq_of_optionRel hhead fun _ _ _ h => h]

theorem TypeRef.Alike.eq : ∀ {r r' : TypeRef}, r.Alike .exact r' → r' = r
  | .named _, _, .named h => congrArg TypeRef.named h
  | .inline _, _, .inline h => congrArg TypeRef.inline h.eq
  | .any, _, .any => rfl

theorem TypeDef.Alike.eq : ∀ {d d' : TypeDef}, d.Alike .exact d' → d' = d
  | .simple _, _, .simple h => congrArg TypeDef.simple h.eq
  | .complex _, _, .complex h => congrArg TypeDef.complex h.eq

theorem SimpleType.Alike.eq : ∀ {t t' : SimpleType}, t.Alike .exact t' → t' = t
  | ⟨_, _⟩, _, .mk h => congrArg _ h.eq

theorem Variety.Alike.eq : ∀ {v v' : Variety}, v.Alike .exact v' → v' = v
  | .restriction none _, _, .restriction .none => rfl
  | .restriction (some base) _, _, .restriction (.some h) => by rw [h.eq]
  | .list, _, .list => rfl
  | .union, _, .union => rfl

theorem ComplexType.Alike.eq : ∀ {t t' : ComplexType}, t.Alike .exact t' → t' = t
  | ⟨_, _, _, _, _⟩, _, .mk _ hderivation hparticle hitems => by
    rw [eq_of_optionRel hderivation fun _ _ _ h => h.eq, hparticle.eq, items_eq_of_alike hitems]

theorem AttributeDecl.Alike.eq : ∀ {d d' : AttributeDecl}, d.Alike .exact d' → d' = d
  | ⟨_, none⟩, _, .mk _ .none => rfl
  | ⟨_, some type⟩, _, .mk _ (.some h) => by rw [h.eq]

theorem AttributeItem.Alike.eq : ∀ {item item' : AttributeItem}, item.Alike .exact item' → item' = item
  | .declared _ prohibited, _, .declared h => congrArg (AttributeItem.declared · prohibited) h.eq
  | .attributeRef _ prohibited, _, .attributeRef h => congrArg (AttributeItem.attributeRef · prohibited) h
  | .groupRef _, _, .groupRef h => congrArg AttributeItem.groupRef h

theorem items_eq_of_alike : ∀ {items items' : List AttributeItem},
    List.Forall₂ (AttributeItem.Alike .exact) items items' → items' = items
  | [], _, .nil => rfl
  | _ :: _, _, .cons h hs => congrArg₂ List.cons h.eq (items_eq_of_alike hs)

end

end Schema

end SchemaHints
