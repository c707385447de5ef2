/-
Documents. The events of a document are folded into its tree over the stack of open elements, from
the innermost on. A tag is given its bindings, its name and the names of its attributes when it
opens; an element is given its children when it closes.
-/
import SchemaHints.Limits
import SchemaHints.Xml.Element

namespace SchemaHints.Xml

/-- The attributes of a tag that are no namespace declarations, under their expanded names; of two
with one expanded name the later stays. -/
def expandAttributes (b : Bindings) :
    List (String × String) → List (Name × String) → Result (List (Name × String))
  | [], done => .ok done
  | (key, value) :: rest, done =>
    if (b.declare? key value).isSome then expandAttributes b rest done
    else match Text.splitAtColon key with
      | none => expandAttributes b rest (put (.plain key) value done)
      | some _ => match b.resolve key with
        | .ok name => expandAttributes b rest (put name value done)
        | .error cause => fail cause
where
  /-- The attributes with this one set. -/
  put (name : Name) (value : String) (done : List (Name × String)) : List (Name × String) :=
    done.filter (·.1 ≠ name) ++ [(name, value)]

/-- The expanded name of a tag. -/
def expandTagName (b : Bindings) (text : String) : Result Name :=
  match Text.splitAtColon text with
  | none => .ok ⟨b.default, text⟩
  | some (pfx, localName) => match b.space? pfx with
    | some space => .ok ⟨space, localName⟩
    | none => fail (.unknownElementPrefix pfx text)

/-- The childless element of a tag that stands where `outer` is in force. -/
def Element.ofTag (outer : Bindings) (tag : Tag) : Result Element := do
  let bindings := outer.within tag.attributes
  let name ← expandTagName bindings tag.name
  let attributes ← expandAttributes bindings tag.attributes []
  .ok ⟨name, attributes, bindings, []⟩

/-- A tree under construction: the open elements from the innermost on, their children so far in
reverse, and the last element that was closed outside all others. -/
structure Partial where
  stack : List Element
  root : Option Element

namespace Partial

/-- Nothing read yet. -/
def empty : Partial := ⟨[], none⟩

/-- Adds a finished element to the innermost open one, or makes it the root. -/
def attach (p : Partial) (e : Element) : Partial :=
  match p.stack with
  | [] => { p with root := some e }
  | parent :: outer => { p with stack := { parent with children := e :: parent.children } :: outer }

/-- The element of a tag that opens inside the open ones. -/
def enter (limits : Limits) (p : Partial) (tag : Except TagFault Tag) : Result Element := do
  limits.checkDepth (p.stack.length + 1)
  match tag with
  | .error reason => fail (.badTag reason)
  | .ok tag => Element.ofTag ((p.stack.head?.map Element.bindings).getD .empty) tag

/-- Takes one event. -/
def take (limits : Limits) (p : Partial) : Event → Result Partial
  | .opening tag => do
    let e ← p.enter limits tag
    .ok { p with stack := e :: p.stack }
  | .selfClosing tag => do
    let e ← p.enter limits tag
    .ok (p.attach e)
  | .closing => match p.stack with
    | [] => .ok p
    | e :: outer => .ok ({ p with stack := outer }.attach { e with children := e.children.reverse })
  | .malformed position reason => fail (.malformed position reason)

/-- Takes events in order, up to the first fault. -/
def takeAll (limits : Limits) (p : Partial) : List Event → Result Partial
  | [] => .ok p
  | event :: events => do
    let p ← p.take limits event
    takeAll limits p events

theorem takeAll_append (limits : Limits) (p : Partial) (before after : List Event) :
    p.takeAll limits (before ++ after) = (p.takeAll limits before >>= fun p' => p'.takeAll limits after) := by
  induction before generalizing p with
  | nil => rfl
  | cons event before ih =>
    rw [List.cons_append, takeAll, takeAll, bind_assoc]
    exact congrArg (p.take limits event >>= ·) (funext ih)

end Partial

/-- The root element of a sequence of events, if there is an element at all. -/
def rootOfEvents (limits : Limits) (events : List Event) : Result (Option Element) := do
  let p ← Partial.empty.takeAll limits events
  if p.stack.isEmpty then .ok p.root else fail .unclosedElement

/-- The root element of a document. -/
def rootOf (limits : Limits) (document : Bytes) : Result (Option Element) :=
  rootOfEvents limits (eventsOf document)

end SchemaHints.Xml
