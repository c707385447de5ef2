/-
Extracting a shape: the attributes of an element with the values they are restricted to, and its
children, one for each name. The declaration met first for a name stands for it from then on.
-/
import SchemaHints.Shape.Basic
import SchemaHints.Shape.Walk

namespace SchemaHints.Schema

/-- The shape of an attribute. -/
def extractAttribute (s : Schema) (a : AttributeDecl) : Result AttributeShape := do
  let values ← s.enumeration a
  .ok ⟨a.name, .ofList values⟩

/-- The shapes of some attributes. -/
def extractAttributes (s : Schema) : List AttributeDecl → Traced (List AttributeShape)
  | [] => pure []
  | a :: rest => do
    let shape ← Traced.lift (s.extractAttribute a)
    Traced.line a.name.localName
    let shapes ← s.extractAttributes rest
    pure (shape :: shapes)

/-- The first declaration of each name, leaving out the names in `seen`. -/
def firstOfEachName (seen : List Name) : List ElementDecl → List ElementDecl
  | [] => []
  | d :: ds =>
    if d.name ∈ seen then firstOfEachName seen ds
    else d :: firstOfEachName (d.name :: seen) ds

/-- The shape of an element with structured content, and the declarations of its children. -/
def extractComplex (s : Schema) (e : ElementDecl) (isTopLevel : Bool) (content : Content) :
    Traced (ElementShape × List ElementDecl) := do
  Traced.line "Attributes"
  let attributes ← Traced.nested (s.extractAttributes content.attributes.values)
  Traced.line ("Child Particle " ++ content.particle.text)
  let declarations ← Traced.nested (s.walk content.particle)
  let children := firstOfEachName [] declarations
  let shape := attributes.foldl ElementShape.addAttribute (.new e.name isTopLevel)
  pure ({ shape with children := .ofList (children.map (·.name)) }, children)

/-- The shape of an element, and the declarations of its children, one for each name. -/
def extract (s : Schema) (e : ElementDecl) (isTopLevel : Bool) : Traced (ElementShape × List ElementDecl) :=
  match s.contentType e with
  | .error reason => Traced.lift (.error reason)
  | .ok .simple => pure (.new e.name isTopLevel, [])
  | .ok (.complex content) => Traced.nested (s.extractComplex e isTopLevel content)

/-- The shape of an element, and the declarations of its children, when `walk` says which declarations
a content particle leads to. -/
def extractBy (s : Schema) (walk : Particle → Result (List ElementDecl)) (e : ElementDecl)
    (isTopLevel : Bool) : Result (ElementShape × List ElementDecl) := do
  match ← s.contentType e with
  | .simple => .ok (.new e.name isTopLevel, [])
  | .complex content => do
    let attributes ← (s.extractAttributes content.attributes.values).result
    let declarations ← walk content.particle
    let children := firstOfEachName [] declarations
    let shape := attributes.foldl ElementShape.addAttribute (.new e.name isTopLevel)
    .ok ({ shape with children := .ofList (children.map (·.name)) }, children)

/-- An extraction leaves aside what it tells on the way. -/
theorem result_extract (s : Schema) (e : ElementDecl) (isTopLevel : Bool) :
    (s.extract e isTopLevel).result = s.extractBy (fun p => (s.walk p).result) e isTopLevel := by
  unfold extract extractBy
  rcases s.contentType e with reason | _ | content
  · rfl
  · rfl
  · simp only [extractComplex, Traced.result_nested, Traced.result_bind, Traced.result_line,
      Traced.result_pure]
    rfl

/-! ## First declarations -/

theorem mem_of_mem_firstOfEachName {seen : List Name} {ds : List ElementDecl} {d : ElementDecl}
    (h : d ∈ firstOfEachName seen ds) : d ∈ ds ∧ d.name ∉ seen := by
  induction ds generalizing seen with
  | nil => cases h
  | cons x xs ih =>
    rw [firstOfEachName] at h
    split at h
    · obtain ⟨hm, hs⟩ := ih h
      exact ⟨List.mem_cons_of_mem _ hm, hs⟩
    · rename_i hx
      rcases List.mem_cons.1 h with rfl | h
      · exact ⟨List.mem_cons_self .., hx⟩
      · obtain ⟨hm, hs⟩ := ih h
        exact ⟨List.mem_cons_of_mem _ hm, fun h' => hs (List.mem_cons_of_mem _ h')⟩

theorem nodup_firstOfEachName (seen : List Name) (ds : List ElementDecl) :
    ((firstOfEachName seen ds).map (·.name)).Nodup := by
  induction ds generalizing seen with
  | nil => exact List.nodup_nil
  | cons d ds ih =>
    rw [firstOfEachName]
    split
    · exact ih seen
    · rw [List.map_cons, List.nodup_cons]
      refine ⟨fun h => ?_, ih _⟩
      obtain ⟨e, he, hn⟩ := List.mem_map.1 h
      exact (mem_of_mem_firstOfEachName he).2 (hn ▸ List.mem_cons_self ..)

theorem firstOfEachName_congr {seen seen' : List Name} (h : ∀ n, n ∈ seen ↔ n ∈ seen')
    (ds : List ElementDecl) : firstOfEachName seen ds = firstOfEachName seen' ds := by
  induction ds generalizing seen seen' with
  | nil => rfl
  | cons d ds ih =>
    have hd : ∀ n, n ∈ d.name :: seen ↔ n ∈ d.name :: seen' := fun n => by simp [h n]
    simp only [firstOfEachName, h d.name]
    rw [ih h, ih hd]

theorem firstOfEachName_append (seen : List Name) (ds es : List ElementDecl) :
    firstOfEachName seen (ds ++ es) =
      firstOfEachName seen ds ++ firstOfEachName (ds.map (·.name) ++ seen) es := by
  induction ds generalizing seen with
  | nil => rfl
  | cons d ds ih =>
    simp only [List.cons_append, firstOfEachName, List.map_cons]
    split
    · rename_i hd
      rw [ih]
      congr 1
      refine firstOfEachName_congr (fun n => ?_) es
      simp only [List.mem_append, List.mem_cons]
      constructor
      · rintro (h | h)
        · exact .inr (.inl h)
        · exact .inr (.inr h)
      · rintro (rfl | h | h)
        · exact .inr hd
        · exact .inl h
        · exact .inr h
    · rw [ih, List.cons_append]
      congr 2
      exact firstOfEachName_congr (fun n => by simp [or_left_comm]) es

/-- Declarations of names that have been seen count for nothing. -/
theorem firstOfEachName_eq_nil {seen : List Name} {ds : List ElementDecl} (h : ∀ d ∈ ds, d.name ∈ seen) :
    firstOfEachName seen ds = [] := by
  induction ds with
  | nil => rfl
  | cons d ds ih =>
    rw [firstOfEachName, if_pos (h d (List.mem_cons_self ..))]
    exact ih fun e he => h e (List.mem_cons_of_mem _ he)

/-- The names of the first declarations are the unseen names, each where it occurs first. -/
theorem map_name_firstOfEachName (seen : List Name) (ds : List ElementDecl) :
    (firstOfEachName seen ds).map (·.name) = ((ds.map (·.name)).filter (· ∉ seen)).eraseDups := by
  induction ds generalizing seen with
  | nil => rfl
  | cons d ds ih =>
    rw [firstOfEachName, List.map_cons]
    by_cases hd : d.name ∈ seen
    · rw [if_pos hd, ih, List.filter_cons_of_neg (by simpa using hd)]
    · rw [if_neg hd, List.filter_cons_of_pos (by simpa using hd), List.eraseDups_cons, List.map_cons, ih,
        List.filter_filter]
      congr 3
      refine funext fun n => ?_
      simp [not_or, Bool.beq_eq_decide_eq]

theorem names_firstOfEachName (ds : List ElementDecl) :
    (firstOfEachName [] ds).map (·.name) = (ds.map (·.name)).eraseDups := by
  have hall : (ds.map (·.name)).filter (· ∉ ([] : List Name)) = ds.map (·.name) :=
    List.filter_eq_self.2 fun n _ => by simp
  rw [map_name_firstOfEachName, hall]

/-- Declarations of different names that have not been seen are all first. -/
theorem firstOfEachName_eq_self {seen : List Name} {ds : List ElementDecl} (hn : (ds.map (·.name)).Nodup)
    (hs : ∀ d ∈ ds, d.name ∉ seen) : firstOfEachName seen ds = ds := by
  induction ds generalizing seen with
  | nil => rfl
  | cons d ds ih =>
    rw [List.map_cons, List.nodup_cons] at hn
    rw [firstOfEachName, if_neg (hs d (List.mem_cons_self ..))]
    congr 1
    refine ih hn.2 fun e he hm => ?_
    rcases List.mem_cons.1 hm with h | h
    · exact hn.1 (h ▸ List.mem_map_of_mem he)
    · exact hs e (List.mem_cons_of_mem _ he) h

/-! ## What an extraction gives -/

theorem addAttributes_name (attributes : List AttributeShape) (shape : ElementShape) :
    (attributes.foldl ElementShape.addAttribute shape).name = shape.name ∧
      (attributes.foldl ElementShape.addAttribute shape).isTopLevel = shape.isTopLevel := by
  induction attributes generalizing shape with
  | nil => exact ⟨rfl, rfl⟩
  | cons a as ih => exact ih (shape.addAttribute a)

/-- The shape tells the name of its element and its rank, and names the children as they are given. -/
theorem extract_shape {s : Schema} {e : ElementDecl} {isTopLevel : Bool} {shape : ElementShape}
    {children : List ElementDecl} (h : (s.extract e isTopLevel).result = .ok (shape, children)) :
    shape.name = e.name ∧ shape.isTopLevel = isTopLevel ∧
      shape.children.toList = children.map (·.name) := by
  rw [result_extract] at h
  obtain ⟨content, -, h⟩ := Result.bind_eq_ok.1 h
  cases content with
  | simple =>
    cases h
    exact ⟨rfl, rfl, rfl⟩
  | complex content =>
    obtain ⟨attributes, -, h⟩ := Result.bind_eq_ok.1 h
    obtain ⟨declarations, -, h⟩ := Result.bind_eq_ok.1 h
    cases h
    obtain ⟨hname, hrank⟩ := addAttributes_name attributes (.new e.name isTopLevel)
    exact ⟨hname, hrank, Distinct.toList_ofList (nodup_firstOfEachName ..)⟩

theorem extract_scope {s : Schema} {e : ElementDecl} {isTopLevel : Bool} {shape : ElementShape}
    {children : List ElementDecl} (he : s.Covers e.declared)
    (h : (s.extract e isTopLevel).result = .ok (shape, children)) :
    shape.name = e.name ∧ ∀ d ∈ children, s.Covers d.declared := by
  refine ⟨(extract_shape h).1, ?_⟩
  rw [result_extract] at h
  obtain ⟨content, hc, h⟩ := Result.bind_eq_ok.1 h
  cases content with
  | simple =>
    cases h
    simp
  | complex content =>
    obtain ⟨attributes, -, h⟩ := Result.bind_eq_ok.1 h
    obtain ⟨declarations, hw, h⟩ := Result.bind_eq_ok.1 h
    cases h
    exact fun d hd =>
      covers_of_walk (covers_of_contentType he hc) hw d (mem_of_mem_firstOfEachName hd).1

end SchemaHints.Schema
