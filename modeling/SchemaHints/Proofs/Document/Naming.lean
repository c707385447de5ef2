/-
The names of complex types. A document gives a name to the complex types that it declares globally, and a schema
holds each under its name; a complex type in place of an element's type has none. So the names of the types that
a derivation passes through are names of the table of types.
-/
import SchemaHints.Proofs.Fault.Result
import SchemaHints.Proofs.Loading.Compiled
import SchemaHints.Schema.Scope

namespace SchemaHints.Schema

open Xml (Element)
open Result

/-- The type of a declaration, if it is a complex type in place, has no name. -/
def ElementDecl.Anonymous (d : ElementDecl) : Prop := ∀ t, d.type = .inline (.complex t) → t.name = none

/-- Complex types stand under their names, and those in place of the type of an element, at any depth, have
none. -/
structure Named (s : Schema) : Prop where
  types : ∀ n t, s.types.get? n = some (.complex t) → t.name = some n
  inlines : ∀ d ∈ s.declarations, d.Anonymous

/-- Declarations whose types in place have no names. -/
def Unnamed (ds : List ElementDecl) : Prop := ∀ d ∈ ds, d.Anonymous

/-! ## Parts of types -/

theorem unnamed_nil : Unnamed [] := fun _ => nofun

theorem unnamed_append {ds es : List ElementDecl} (hd : Unnamed ds) (he : Unnamed es) : Unnamed (ds ++ es) :=
  fun d h => (List.mem_append.1 h).elim (hd d) (he d)

theorem declarationsInAll_append (ps qs : List Particle) :
    declarationsInAll (ps ++ qs) = declarationsInAll ps ++ declarationsInAll qs := by
  simp only [declarationsInAll_eq, List.flatMap_append]

theorem declarationsInAll_singleton (p : Particle) : declarationsInAll [p] = p.declarations :=
  List.append_nil _

theorem declarations_combine (ps : List Particle) :
    (Particle.combine ps).declarations = declarationsInAll ps := by
  match ps with
  | [] => rfl
  | [p] => exact (declarationsInAll_singleton p).symm
  | _ :: _ :: _ => rfl

/-- A type reference in whose type in place nothing is named, itself included. -/
structure TypeRef.Unnamed (r : TypeRef) : Prop where
  self : ∀ t, r = .inline (.complex t) → t.name = none
  inside : Schema.Unnamed r.declarations

theorem TypeRef.unnamed_ofName (n : Name) : (TypeRef.ofName n).Unnamed := by
  unfold TypeRef.ofName
  split
  · exact ⟨nofun, unnamed_nil⟩
  · exact ⟨nofun, unnamed_nil⟩

theorem ElementDecl.unnamed_of_type {name : Name} {type : TypeRef} {head : Option Name} {blocks : Bool}
    (h : type.Unnamed) : Unnamed (ElementDecl.mk name type head blocks).declarations := by
  intro d hd
  rcases List.mem_cons.1 hd with rfl | hd
  · exact h.self
  · exact h.inside d hd

/-! ## Reading content models -/

/-- Nothing in the particles of a draft is named. -/
def Draft.Unnamed (d : Draft) : Prop := Schema.Unnamed (declarationsInAll d.parts)

namespace Draft.Unnamed

theorem empty : Draft.Unnamed {} := unnamed_nil

theorem append {a b : Draft} (ha : a.Unnamed) (hb : b.Unnamed) : (a ++ b).Unnamed := by
  show Schema.Unnamed (declarationsInAll (a.parts ++ b.parts))
  rw [declarationsInAll_append]
  exact unnamed_append ha hb

theorem complexType {d : Draft} (h : d.Unnamed) (name : Option Name) :
    Schema.Unnamed (d.complexType name).declarations := by
  rw [ComplexType.declarations_eq]
  show Schema.Unnamed (Particle.combine d.parts).declarations
  rw [declarations_combine]
  exact h

end Draft.Unnamed

variable (s : Setting)

mutual

theorem unnamed_readParticle : ∀ e : Element,
    Gives (fun p : Option Particle => Unnamed (declarationsInAll p.toList)) (readParticle s e)
  | ⟨name, attributes, bindings, children⟩ => by
    rw [readParticle]
    split
    · exact gives_ok unnamed_nil
    split
    · refine gives_bind fun ref => ?_
      cases ref with
      | some ref => exact gives_ok unnamed_nil
      | none =>
        refine gives_bind fun name => gives_bind fun type => ?_
        have hlocal {type : TypeRef} (h : type.Unnamed) :
            Unnamed (declarationsInAll [.localElement (.simple name type)]) := by
          rw [declarationsInAll_singleton]
          exact ElementDecl.unnamed_of_type h
        cases type with
        | some type => exact gives_ok (hlocal (TypeRef.unnamed_ofName type))
        | none => exact (unnamed_readInlineType children).bind fun type h => gives_ok (hlocal h)
    · refine (unnamed_readParticles children).bind fun items h => gives_ok ?_
      rw [Option.toList_some, declarationsInAll_singleton]
      exact h
    · exact gives_bind fun _ => gives_bind fun _ => gives_ok unnamed_nil
    · exact gives_ok unnamed_nil
    · exact gives_ok unnamed_nil
    · exact gives_ok unnamed_nil

theorem unnamed_readParticles : ∀ es : List Element,
    Gives (fun ps => Unnamed (declarationsInAll ps)) (readParticles s es)
  | [] => by
    rw [readParticles]
    exact gives_ok unnamed_nil
  | e :: rest => by
    rw [readParticles]
    refine (unnamed_readParticle e).bind fun p hp => (unnamed_readParticles rest).bind fun ps hps => gives_ok ?_
    rw [declarationsInAll_append]
    exact unnamed_append hp hps

theorem unnamed_readInlineType : ∀ es : List Element, Gives TypeRef.Unnamed (readInlineType s es)
  | [] => by
    rw [readInlineType]
    exact gives_ok ⟨nofun, unnamed_nil⟩
  | ⟨name, attributes, bindings, children⟩ :: rest => by
    rw [readInlineType]
    split
    · refine (unnamed_readDraft children).bind fun draft h => gives_ok ⟨?_, h.complexType none⟩
      rintro t ⟨⟩
      rfl
    · exact gives_bind fun _ => gives_ok ⟨nofun, unnamed_nil⟩
    · exact unnamed_readInlineType rest

theorem unnamed_readDraft : ∀ es : List Element, Gives Draft.Unnamed (readDraft s es)
  | [] => by
    rw [readDraft]
    exact gives_ok .empty
  | ⟨name, attributes, bindings, children⟩ :: rest => by
    have hrest (draft : Draft) (h : draft.Unnamed) : Gives Draft.Unnamed (do
        let drafts ← readDraft s rest
        .ok (draft ++ drafts)) := (unnamed_readDraft rest).bind fun _ hrest => gives_ok (h.append hrest)
    have hparticle := unnamed_readParticle ⟨name, attributes, bindings, children⟩
    rw [readDraft]
    split
    · exact hparticle.bind fun _ h => hrest _ h
    · exact hparticle.bind fun _ h => hrest _ h
    · exact gives_bind fun _ => hrest _ unnamed_nil
    · exact gives_bind fun _ => hrest _ unnamed_nil
    · exact (unnamed_readDerivations false children).bind fun _ h => hrest _ (.append .empty h)
    · exact (unnamed_readDerivations true children).bind fun _ h => hrest _ (.append .empty h)
    all_goals exact hrest _ unnamed_nil

theorem unnamed_readDerivations (simple : Bool) :
    ∀ es : List Element, Gives Draft.Unnamed (readDerivations s simple es)
  | [] => by
    rw [readDerivations]
    exact gives_ok .empty
  | ⟨name, attributes, bindings, children⟩ :: rest => by
    have hrest (draft : Draft) (h : draft.Unnamed) : Gives Draft.Unnamed (do
        let drafts ← readDerivations s simple rest
        .ok (draft ++ drafts)) :=
      (unnamed_readDerivations simple rest).bind fun _ hrest => gives_ok (h.append hrest)
    rw [readDerivations]
    split
    · refine gives_bind fun _ => gives_bind fun _ => ?_
      exact (unnamed_readDerived simple children).bind fun _ h => hrest _ (.append .empty h)
    · exact hrest _ .empty

theorem unnamed_readDerived (simple : Bool) : ∀ es : List Element, Gives Draft.Unnamed (readDerived s simple es)
  | [] => by
    rw [readDerived]
    exact gives_ok .empty
  | ⟨name, attributes, bindings, children⟩ :: rest => by
    have hrest (draft : Draft) (h : draft.Unnamed) : Gives Draft.Unnamed (do
        let drafts ← readDerived s simple rest
        .ok (draft ++ drafts)) :=
      (unnamed_readDerived simple rest).bind fun _ hrest => gives_ok (h.append hrest)
    have hparticle := unnamed_readParticle ⟨name, attributes, bindings, children⟩
    rw [readDerived]
    split
    · exact gives_bind fun _ => hrest _ unnamed_nil
    · exact gives_bind fun _ => hrest _ unnamed_nil
    · exact hrest _ .empty
    · exact hrest _ .empty
    · exact hrest _ .empty
    · split
      · exact hrest _ .empty
      · exact hparticle.bind fun _ h => hrest _ h

end

theorem unnamed_readElementType (e : Element) : Gives TypeRef.Unnamed (readElementType s e) := by
  refine gives_bind fun type => ?_
  cases type with
  | none => exact unnamed_readInlineType s e.children
  | some type => exact gives_ok (TypeRef.unnamed_ofName type)

theorem unnamed_readGroup (e : Element) : Gives (fun p => Unnamed p.declarations) (readGroup s e) := by
  unfold readGroup
  split
  · exact (unnamed_readParticles s _).bind fun _ h => gives_ok h
  · exact gives_ok unnamed_nil

theorem unnamed_readGlobalElement (e : Element) :
    Gives (fun d => Unnamed d.declarations) (readGlobalElement s e) :=
  gives_bind fun _ => (unnamed_readElementType s e).bind fun _ h => gives_bind fun _ =>
    gives_ok (ElementDecl.unnamed_of_type h)

/-! ## Documents -/

/-- A type definition that stands under its own name, if it is complex, with no name inside. -/
structure TypeDef.NamedAs (d : TypeDef) (n : Name) : Prop where
  name : ∀ t, d = .complex t → t.name = some n
  inside : Unnamed d.declarations

/-- What an item of a document says about names. -/
def Item.Named : Item → Prop
  | element declaration => Unnamed declaration.declarations
  | type n definition => definition.NamedAs n
  | group _ particle => Unnamed particle.declarations
  | _ => True

theorem named_readItem (e : Element) : Gives Item.Named (readItem s e) := by
  unfold readItem
  generalize Word.of e.name.localName = word
  cases word with
  | element => exact (unnamed_readGlobalElement s e).bind fun _ h => gives_ok h
  | complexType =>
    refine gives_bind fun n => Gives.bind (P := fun t => t.name = some n ∧ Unnamed t.declarations) ?_ ?_
    · exact (unnamed_readDraft s e.children).bind fun draft h => gives_ok ⟨rfl, h.complexType _⟩
    · rintro t ⟨hname, hinside⟩
      refine gives_ok ⟨?_, hinside⟩
      rintro _ ⟨⟩
      exact hname
  | simpleType => exact gives_bind fun _ => gives_bind fun _ => gives_ok ⟨nofun, unnamed_nil⟩
  | group => exact gives_bind fun _ => (unnamed_readGroup s e).bind fun _ h => gives_ok h
  | attributeGroup => exact gives_bind fun _ => gives_bind fun _ => gives_ok trivial
  | attributeUse => exact gives_bind fun _ => gives_bind fun _ => gives_ok trivial
  | includes | redefines => exact gives_bind fun _ => gives_ok trivial
  | _ => exact gives_ok trivial

theorem Document.named_read (root : Element) (location : String) (role : Role) :
    Gives (fun d => ∀ item ∈ d.items, item.Named) (Document.read root location role) :=
  gives_bind fun s => (gives_mapM (named_readItem s) root.children).bind fun _ h => gives_ok h

/-! ## Schemas -/

/-- The tables of a schema say of each entry what an item of a document says. -/
structure EntriesNamed (s : Schema) : Prop where
  elements : ∀ e ∈ s.elements.entries, Unnamed e.2.declarations
  types : ∀ e ∈ s.types.entries, e.2.NamedAs e.1
  groups : ∀ e ∈ s.groups.entries, Unnamed e.2.declarations

theorem preserved_entriesNamed : Preserved EntriesNamed where
  empty := ⟨fun _ => nofun, fun _ => nofun, fun _ => nofun⟩
  merge := by
    intro s root location role d hs hd
    have hitems : ∀ item ∈ d.items, item.Named := Document.named_read root location role d hd
    refine ⟨Keyed.forall_insertAllNew hs.elements ?_, Keyed.forall_insertAllNew hs.types ?_,
      Keyed.forall_insertAllNew hs.groups ?_⟩
    · simp only [Document.elements, List.forall_mem_map, List.mem_filterMap]
      rintro declaration ⟨item, hi, h⟩
      split at h <;> cases h
      exact hitems _ hi
    · simp only [Document.types, List.mem_filterMap]
      rintro e ⟨item, hi, h⟩
      split at h <;> cases h
      exact hitems _ hi
    · simp only [Document.groups, List.mem_filterMap]
      rintro e ⟨item, hi, h⟩
      split at h <;> cases h
      exact hitems _ hi
  supply hs := ⟨hs.elements, hs.types, hs.groups⟩
  tables hs _ _ _ := ⟨hs.elements, hs.types, hs.groups⟩

theorem EntriesNamed.named {s : Schema} (h : EntriesNamed s) : s.Named where
  types n t hn := (h.types _ (Keyed.get?_eq_some_iff.1 hn)).name t rfl
  inlines := by
    have hvalues {α : Type} {entries : Keyed Name α} {f : α → List ElementDecl}
        (hall : ∀ e ∈ entries.entries, Unnamed (f e.2)) : Unnamed (entries.values.flatMap f) := by
      intro d hd
      obtain ⟨a, ha, hd⟩ := List.mem_flatMap.1 hd
      obtain ⟨e, he, rfl⟩ := List.mem_map.1 ha
      exact hall e he d hd
    exact unnamed_append (unnamed_append (hvalues h.elements) (hvalues fun e he => (h.types e he).inside))
      (hvalues h.groups)

/-- In a compiled schema complex types are named as the tables say. -/
theorem Compiled.named {s : Schema} (h : s.Compiled) : s.Named := (preserved_entriesNamed.compiled h).named

end SchemaHints.Schema
