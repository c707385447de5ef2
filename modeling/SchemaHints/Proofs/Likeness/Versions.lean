/-
The two versions of XML Schema. Their namespaces are taken for one another wherever a name is looked at: at the root of
a document, where a reference to the type of everything is read, and where a built-in type is looked up. So documents in
which each of the two stands in the place of the other make the same shapes, in some of the files or in all.

What is in one of the two namespaces is built in. A document that declares one of them as its target would declare
names there, and then it would matter which of the two a reference means.
-/
import SchemaHints.Hint
import SchemaHints.Proofs.Likeness.Loading
import SchemaHints.Proofs.Likeness.Shapes

namespace SchemaHints

open Result
open Xml (Element Bindings)

/-! ## One version for the other -/

/-- The namespace of the other version of XML Schema; every other namespace stays as it is. -/
def otherVersion (space : String) : String :=
  if space = schemaNamespace then schema11Namespace
  else if space = schema11Namespace then schemaNamespace
  else space

theorem otherVersion_eq (space : String) :
    otherVersion space = space ∨ isSchemaNamespace space = true ∧ isSchemaNamespace (otherVersion space) = true := by
  unfold otherVersion
  split
  · rename_i h
    exact .inr ⟨h ▸ rfl, rfl⟩
  · split
    · rename_i h
      exact .inr ⟨h ▸ rfl, rfl⟩
    · exact .inl rfl

theorem isSchemaNamespace_otherVersion (space : String) :
    isSchemaNamespace (otherVersion space) = isSchemaNamespace space := by
  rcases otherVersion_eq space with h | ⟨h, h'⟩
  · rw [h]
  · rw [h, h']

/-- The name in the other version of XML Schema, if it is in one of them. -/
def Name.swapped (n : Name) : Name := ⟨otherVersion n.space, n.localName⟩

namespace Xml

/-- The bindings with the other version in place of each. -/
def Bindings.swapped (b : Bindings) : Bindings :=
  ⟨b.prefixes.map fun p => (p.1, otherVersion p.2), otherVersion b.default⟩

namespace Element

mutual

/-- The tree with the other version in place of each, in the names of its elements and in its bindings. -/
def swapped : Element → Element
  | ⟨name, attributes, bindings, children⟩ => ⟨name.swapped, attributes, bindings.swapped, swappedAll children⟩

/-- Trees with the other version in place of each. -/
def swappedAll : List Element → List Element
  | [] => []
  | e :: es => swapped e :: swappedAll es

end

/-- Trees of which one has the other version in place of each; their attributes may differ in those that have a
namespace, which are not read. -/
inductive Swaps : Element → Element → Prop
  | mk {name : Name} {attributes attributes' : List (Name × String)} {bindings : Bindings}
    {children children' : List Element} :
    (∀ key, attributes'.lookup (.plain key) = attributes.lookup (.plain key)) → List.Forall₂ Swaps children children' →
      Swaps ⟨name, attributes, bindings, children⟩ ⟨name.swapped, attributes', bindings.swapped, children'⟩

mutual

theorem swaps_swapped : ∀ e : Element, e.Swaps e.swapped
  | ⟨_, _, _, children⟩ => .mk (fun _ => rfl) (swaps_swappedAll children)

theorem swaps_swappedAll : ∀ es : List Element, List.Forall₂ Swaps es (swappedAll es)
  | [] => .nil
  | e :: es => .cons (swaps_swapped e) (swaps_swappedAll es)

end

end Element

end Xml

/-! ## What the names refer to -/

/-- Names refer to each other that are the same or differ only in the version of XML Schema; in neither version can
anything be declared. -/
def Likeness.versions : Likeness where
  refers n n' := n'.localName = n.localName ∧
    (n'.space = n.space ∨ isSchemaNamespace n.space = true ∧ isSchemaNamespace n'.space = true)
  declares n := isSchemaNamespace n.space = false
  refl _ := ⟨rfl, .inl rfl⟩
  localName h := h.1
  builtin h := by
    rcases h.2 with h | ⟨h, h'⟩
    · rw [h]
    · rw [h, h']
  eq_of_left := by
    rintro ⟨space, l⟩ ⟨space', l'⟩ ⟨rfl, rfl | ⟨h, -⟩⟩ hn
    · rfl
    · cases h.symm.trans hn
  eq_of_right := by
    rintro ⟨space, l⟩ ⟨space', l'⟩ ⟨rfl, rfl | ⟨-, h⟩⟩ hn
    · rfl
    · cases h.symm.trans hn
  plain _ := rfl

namespace Xml

theorem Bindings.space?_swapped (b : Bindings) (pfx : String) :
    b.swapped.space? pfx = (b.space? pfx).map otherVersion := by
  have hlookup (ps : List (String × String)) :
      (ps.map fun p => (p.1, otherVersion p.2)).lookup pfx = (ps.lookup pfx).map otherVersion := by
    induction ps with
    | nil => rfl
    | cons p ps ih =>
      rw [List.map_cons, List.lookup_cons, List.lookup_cons, ih]
      cases pfx == p.1 <;> rfl
  unfold Bindings.space?
  split
  · rfl
  · exact hlookup b.prefixes

theorem Bindings.resolve_swapped (b : Bindings) (text : String) :
    ResolvedAlike .versions (b.resolve text) (b.swapped.resolve text) := by
  have hrefers (space l : String) : Likeness.versions.refers ⟨space, l⟩ ⟨otherVersion space, l⟩ :=
    ⟨rfl, otherVersion_eq space⟩
  unfold Bindings.resolve
  cases Text.splitAtColon text with
  | none => exact .ok (hrefers b.default text)
  | some parts =>
    simp only [b.space?_swapped]
    cases b.space? parts.1 with
    | none => exact .error
    | some space => exact .ok (hrefers space parts.2)

mutual

theorem Element.Swaps.alike : ∀ {e e' : Element}, e.Swaps e' → e.Alike .versions e'
  | ⟨_, _, bindings, _⟩, _, .mk hattributes hchildren =>
    .mk rfl hattributes bindings.resolve_swapped (Element.alike_of_swaps hchildren)

theorem Element.alike_of_swaps : ∀ {es es' : List Element}, List.Forall₂ Element.Swaps es es' →
    List.Forall₂ (Element.Alike .versions) es es'
  | [], _, .nil => .nil
  | _ :: _, _, .cons h hs => .cons h.alike (Element.alike_of_swaps hs)

end

theorem Element.Swaps.rootAlike {root root' : Element} (h : root.Swaps root') : RootAlike .versions root root' := by
  refine ⟨h.alike, ?_⟩
  cases h
  exact isSchemaNamespace_otherVersion _

end Xml

/-! ## The same shapes -/

namespace Schema

/-- The shapes of the schema in a file. -/
def shapesOfFile (files : Files) (options : Options) (path : Path) : Result ShapeGraph := do
  let s ← (compileFile files options path).result
  s.build.result

/-- The shapes of the schema in a text. -/
def shapesOfText (files : Files) (text : String) : Result ShapeGraph := do
  let s ← compileText files text
  s.build.result

/-- The root of the document in a file declares no target namespace, or one other than those of XML Schema. -/
def TargetsElsewhere (fs : FileSystem) (limits : Limits) (file : Path) : Prop :=
  ∀ root, rootIn? fs limits file = some root → isSchemaNamespace (declaredTarget root) = false

theorem declaring_versions {fs : FileSystem} {limits : Limits} {P : Path → Prop}
    (hclosed : ∀ file, P file → ∀ target ∈ leadsTo fs limits file, P target)
    (htargets : ∀ file, P file → TargetsElsewhere fs limits file) : Declaring .versions fs limits P :=
  ⟨hclosed, fun file hfile root hroot _ => htargets file hfile root hroot⟩

/-- Alike schemas, if there are any, have the same shapes and the same hints. -/
theorem agree_shapes {L : Likeness} {x x' : Result Schema} (h : Agree (AlikeBy L) x x') :
    Agree (fun g g' => g' = g ∧ ∀ indented, g'.hintText indented = g.hintText indented) (x >>= fun s => s.build.result)
      (x' >>= fun s => s.build.result) := by
  refine h.bind fun s s' hs => hs.build.mono fun g g' hg => ?_
  rw [hg]
  exact ⟨rfl, fun _ => rfl⟩

/-- The versions of XML Schema may stand for each other. Put the other in the place of each, in the names and the
bindings of a tree, and do so in some of the documents that a compilation comes to, none of which declares one of the
two as its target. What compiles and has shapes still does, with the same shapes and the same hints; what fails still
fails, with a fault of the same kind. -/
theorem shapes_swapped : (∀ e : Element, e.Swaps e.swapped) ∧
    (∀ (fs fs' : FileSystem) (options : Options) (path : Path),
      FileSystem.RewrittenBy Element.Swaps options.limits fs fs' →
      (∀ file, Reached fs options.limits path file → TargetsElsewhere fs options.limits file) →
      Agree (fun g g' => g' = g ∧ ∀ indented, g'.hintText indented = g.hintText indented)
        (shapesOfFile fs.files options path) (shapesOfFile fs'.files options path)) ∧
    ∀ (fs fs' : FileSystem) (text text' : String),
      FileSystem.RewrittenBy Element.Swaps .standard fs fs' →
      Rewritten Element.Swaps .standard (Bytes.ofString text) (Bytes.ofString text') →
      (∀ root, Xml.rootOf .standard (Bytes.ofString text) = .ok (some root) →
        isSchemaNamespace (declaredTarget root) = false ∧ ∀ path, RefersTo root path → ∀ file,
          Reached fs .standard path file → TargetsElsewhere fs .standard file) →
      Agree (fun g g' => g' = g ∧ ∀ indented, g'.hintText indented = g.hintText indented)
        (shapesOfText fs.files text) (shapesOfText fs'.files text') := by
  refine ⟨Element.swaps_swapped, ?_, ?_⟩
  · intro fs fs' options path hfs htargets
    have hdeclaring : Declaring .versions fs options.limits (Reached fs options.limits path) :=
      declaring_versions (fun _ hfile _ => hfile.reference) htargets
    have halike := hfs.mono fun _ _ => Element.Swaps.rootAlike
    exact agree_shapes (compileFile_alike halike hdeclaring (fun _ => .main) fun _ => rfl)
  · intro fs fs' text text' hfs htext htargets
    have hdeclaring : Declaring .versions fs .standard fun file => ∃ root path,
        Xml.rootOf .standard (Bytes.ofString text) = .ok (some root) ∧ RefersTo root path ∧
          Reached fs .standard path file := by
      refine declaring_versions ?_ ?_
      · rintro file ⟨root, path, hroot, hrefers, hfile⟩ target htarget
        exact ⟨root, path, hroot, hrefers, hfile.reference htarget⟩
      · rintro file ⟨root, path, hroot, hrefers, hfile⟩
        exact (htargets root hroot).2 path hrefers file hfile
    have halike := hfs.mono fun _ _ => Element.Swaps.rootAlike
    have hroots : RootsAgree .versions .standard (Bytes.ofString text) (Bytes.ofString text') := by
      refine rootsAgree_of_rewritten (htext.mono fun _ _ => Element.Swaps.rootAlike) ?_
      exact fun root hroot _ => (htargets root hroot).1
    refine agree_shapes (compileText_alike halike hdeclaring hroots ?_ fun _ => rfl)
    exact fun root hroot path hrefers file hfile => ⟨root, path, hroot, hrefers, .main hfile⟩

/-- The shape graph of a schema, if it is built in `n` steps from a graph and the declarations pending. -/
def builtWithin (s : Schema) : Nat → ShapeGraph → List ElementDecl → Option ShapeGraph
  | _, graph, [] => some graph
  | 0, _, _ :: _ => none
  | n + 1, graph, d :: rest =>
    if d.name ∈ graph.keys then s.builtWithin n graph rest
    else do
      let (shape, children) ← (s.extract d (graph.size < s.elements.size)).result.toOption
      s.builtWithin n (graph.insert shape.name shape) (rest ++ children)

theorem builds_of_builtWithin {s : Schema} {n : Nat} {graph final : ShapeGraph} {pending : List ElementDecl}
    (h : s.builtWithin n graph pending = some final) : s.Builds graph pending final := by
  induction n generalizing graph pending with
  | zero =>
    cases pending with
    | nil =>
      cases h
      exact .done
    | cons d rest => cases h
  | succ n ih =>
    cases pending with
    | nil =>
      cases h
      exact .done
    | cons d rest =>
      rw [builtWithin] at h
      split at h
      · exact .skip ‹_› (ih h)
      · obtain ⟨⟨shape, children⟩, hextract, h⟩ := Option.bind_eq_some_iff.1 h
        exact .shape ‹_› (Result.toOption_eq_some.1 hextract) (ih h)

/-- A schema in some version that declares an element of a built-in type. -/
def typedText (year : String) : String :=
  "<xs:schema " ++ "xmlns:xs='http://" ++ "www.w3.org/" ++ year ++ "/XMLSchema'>" ++ "<xs:element " ++ "name='part' " ++
    "type='xs:string'/>" ++ "</xs:schema>"

/-- The schema, as it is read. -/
def typedRoot (space : String) : Element :=
  ⟨⟨space, "schema"⟩, [], ⟨[("xs", space)], ""⟩,
    [⟨⟨space, "element"⟩, [(.plain "name", "part"), (.plain "type", "xs:string")], ⟨[("xs", space)], ""⟩, []⟩]⟩

theorem rootOf_typedText :
    Xml.rootOf .standard (Bytes.ofString (typedText "2001")) = .ok (some (typedRoot schemaNamespace)) ∧
      Xml.rootOf .standard (Bytes.ofString (typedText "2009")) = .ok (some (typedRoot schema11Namespace)) := by
  have hevents : Xml.eventsOf (Bytes.ofString (typedText "2001")) =
      [.opening (.ok ⟨"xs:schema", [("xmlns:xs", schemaNamespace)]⟩),
        .selfClosing (.ok ⟨"xs:element", [("name", "part"), ("type", "xs:string")]⟩), .closing] := by
    decide +kernel
  have hevents' : Xml.eventsOf (Bytes.ofString (typedText "2009")) =
      [.opening (.ok ⟨"xs:schema", [("xmlns:xs", schema11Namespace)]⟩),
        .selfClosing (.ok ⟨"xs:element", [("name", "part"), ("type", "xs:string")]⟩), .closing] := by
    decide +kernel
  constructor
  · rw [Xml.rootOf, hevents]
    rfl
  · rw [Xml.rootOf, hevents']
    rfl

theorem rewritten_typedText :
    Rewritten Element.Swaps .standard (Bytes.ofString (typedText "2001")) (Bytes.ofString (typedText "2009")) := by
  have hswapped : (typedRoot schemaNamespace).swapped = typedRoot schema11Namespace := rfl
  exact .document rootOf_typedText.1 rootOf_typedText.2 (hswapped ▸ Element.swaps_swapped _)

/-- A document that includes such a schema, in version 1.0. -/
def mainAndTyped : FileSystem := FileTree.fileSystem <| .ofFiles
  [("main.xsd", Bytes.ofString mainText), ("part.xsd", Bytes.ofString (typedText "2001"))]

/-- The same with the included schema in version 1.1. -/
def mainAndSwapped : FileSystem := mainAndTyped.withContent (.ofString "/part.xsd") (Bytes.ofString (typedText "2009"))

/-- The shapes of both. -/
def typedGraph : ShapeGraph := .ofList [(.plain "part", .new (.plain "part") true)]

theorem targetsElsewhere_of_reached {file : Path}
    (h : Reached mainAndTyped .standard (.ofString "main.xsd") file) :
    TargetsElsewhere mainAndTyped .standard file := by
  have hmain : (mainAndTyped.canonicalize (.ofString "main.xsd")) = .ok (.ofString "/main.xsd") := by decide +kernel
  have hclosed : ∀ file ∈ [Path.ofString "/main.xsd", .ofString "/part.xsd"],
      ∀ target ∈ leadsTo mainAndTyped .standard file, target ∈ [Path.ofString "/main.xsd", .ofString "/part.xsd"] := by
    decide +kernel
  have htargets : ∀ file ∈ [Path.ofString "/main.xsd", .ofString "/part.xsd"],
      (rootIn? mainAndTyped .standard file).map declaredTarget = some "" := by
    decide +kernel
  have hfile := h.mem_of_closed (fun file hfile => by
    rw [hmain] at hfile
    cases hfile
    exact List.mem_cons_self ..) hclosed
  intro root hroot
  have htarget := htargets file hfile
  rw [hroot] at htarget
  rw [Option.some.inj htarget]
  rfl

theorem shapes_swapped_part :
    shapesOfFile mainAndTyped.files .standard (.ofString "main.xsd") = .ok typedGraph ∧
      shapesOfFile mainAndSwapped.files .standard (.ofString "main.xsd") = .ok typedGraph ∧
      shapesOfText mainAndTyped.files (typedText "2001") = .ok typedGraph ∧
      shapesOfText mainAndTyped.files (typedText "2009") = .ok typedGraph := by
  obtain ⟨-, hfile, htext⟩ := shapes_swapped
  have hread : mainAndTyped.read (.ofString "/part.xsd") = .ok (Bytes.ofString (typedText "2001")) := by decide +kernel
  have hsize : Limits.standard.size < (Bytes.ofString (typedText "2009")).length ↔
      Limits.standard.size < (Bytes.ofString (typedText "2001")).length := by
    decide +kernel
  have hshapes : shapesOfFile mainAndTyped.files .standard (.ofString "main.xsd") = .ok typedGraph := by
    have hcomputed : (compiledWithin mainAndTyped.files .standard (.ofString "main.xsd") 1).map
        (fun s => s.builtWithin 1 .empty s.elements.values) = some (some typedGraph) := by
      decide +kernel
    obtain ⟨s, hs, hbuilt⟩ := exists_compileFile hcomputed
    exact Result.bind_eq_ok.2 ⟨s, hs, result_build.2 (builds_of_builtWithin hbuilt)⟩
  have hshapes' : shapesOfText mainAndTyped.files (typedText "2001") = .ok typedGraph := by
    have hcomputed : (compiledTextWithin mainAndTyped.files (typedText "2001") 0).map
        (fun s => s.builtWithin 1 .empty s.elements.values) = some (some typedGraph) := by
      decide +kernel
    obtain ⟨s, hs, hbuilt⟩ := exists_compileText hcomputed
    exact Result.bind_eq_ok.2 ⟨s, hs, result_build.2 (builds_of_builtWithin hbuilt)⟩
  refine ⟨hshapes, ?_, hshapes', ?_⟩
  · have hswapped := hfile mainAndTyped mainAndSwapped .standard (.ofString "main.xsd")
      (FileSystem.rewrittenBy_withContent hread hsize rewritten_typedText) fun _ => targetsElsewhere_of_reached
    obtain ⟨_, hgraph, rfl, -⟩ := hswapped.keptAs _ hshapes
    exact hgraph
  · have hswapped := htext mainAndTyped mainAndTyped (typedText "2001") (typedText "2009")
      (FileSystem.rewrittenBy_refl _) rewritten_typedText fun root hroot => by
        rw [rootOf_typedText.1] at hroot
        cases hroot
        refine ⟨rfl, fun path hrefers => ?_⟩
        obtain ⟨e, he, location, hlocation, -⟩ := hrefers
        rw [List.mem_singleton.1 he] at hlocation
        cases hlocation
    obtain ⟨_, hgraph, rfl, -⟩ := hswapped.keptAs _ hshapes'
    exact hgraph

end Schema

end SchemaHints
