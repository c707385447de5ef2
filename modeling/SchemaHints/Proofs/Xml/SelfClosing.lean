/-
Self-closing tags. A tag that closes itself is handled apart: its element is attached to what is open around it and
never comes onto the stack. That is what happens when the tag opens and is closed at once. Its element is entered in
the same way, on the same stack, so it is refused for the same reason or the same element; and an element that has
just been entered has no children, so that closing it changes nothing in it.

In a document the tag can be written as two. A reader gives the first the same name and attributes, and the slash,
which it takes off a self-closing tag, counts for neither. What follows it reads as before, some bytes further on. So
the law holds of what is written, and not of events alone: the last theorem is the law as an author of documents has it.
-/
import SchemaHints.Proofs.Fault.Result
import SchemaHints.Proofs.Xml.Preorder
import SchemaHints.Proofs.Xml.Reading

namespace SchemaHints.Xml

open Result

/-! ## Events -/

namespace Partial

variable {limits : Limits} {p : Partial}

theorem children_of_enter {read : Except TagFault Tag} {e : Element} (h : p.enter limits read = .ok e) :
    e.children = [] := by
  obtain ⟨-, -, h⟩ := Result.bind_eq_ok.1 h
  cases read with
  | error reason => cases h
  | ok tag => exact (Element.ofTag_eq_ok.1 h).1

/-- An element that closes as it was opened is attached as it is. -/
theorem take_closing {e : Element} (h : e.children = []) (limits : Limits) (p : Partial) :
    ({ p with stack := e :: p.stack } : Partial).take limits .closing = .ok (p.attach e) := by
  have hsame : { e with children := e.children.reverse } = e := by
    cases e
    cases h
    rfl
  simp only [take, hsame]

/-- A self-closing tag does what an opening tag does with a closing tag after it. -/
theorem take_selfClosing (limits : Limits) (p : Partial) (read : Except TagFault Tag) :
    p.take limits (.selfClosing read) = (p.take limits (.opening read) >>= fun p' => p'.take limits .closing) := by
  simp only [take, bind_assoc]
  cases he : p.enter limits read with
  | error f => rfl
  | ok e => exact (take_closing (children_of_enter he) limits p).symm

theorem takeAll_selfClosing (limits : Limits) (p : Partial) (read : Except TagFault Tag) (after : List Event) :
    p.takeAll limits (.selfClosing read :: after) = p.takeAll limits (.opening read :: .closing :: after) := by
  simp only [takeAll, take_selfClosing, bind_assoc]

end Partial

/-- Wherever a self-closing tag stands, an opening tag and a closing tag in its place lead to the same outcome, the
same tree or the same fault. -/
theorem rootOfEvents_selfClosing (limits : Limits) (before after : List Event) (read : Except TagFault Tag) :
    rootOfEvents limits (before ++ .selfClosing read :: after) =
      rootOfEvents limits (before ++ .opening read :: .closing :: after) := by
  simp only [rootOfEvents, Partial.takeAll_append, Partial.takeAll_selfClosing]

/-! ## Tags -/

/-- Whether a tag may begin like this, by the first byte after its bracket. -/
def isTagStart : Bytes → Bool
  | [] => false
  | b :: _ => b ≠ 0x21 && b ≠ 0x2F && b ≠ 0x3F

/-- The name in the content of a tag. -/
def nameIn (content : Bytes) : Bytes := content.takeWhile fun b => !Bytes.isSpace b

/-- A self-closing tag with this content, and what follows it. -/
def selfClosed (content tail : Bytes) : Bytes := 0x3C :: (content ++ 0x2F :: 0x3E :: tail)

/-- An opening tag with this content, its closing tag, and what follows them. -/
def openClosed (content tail : Bytes) : Bytes :=
  0x3C :: (content ++ 0x3E :: 0x3C :: 0x2F :: (nameIn content ++ 0x3E :: tail))

/-- The content of a tag that can be written in both ways. An opening tag must not have a slash at its end, and the
name in a closing tag ends at the first bracket, even at one that stands between quotes. -/
structure Spellable (content : Bytes) : Prop where
  starts : isTagStart content = true
  ends : endsTag none content = true
  last : content.getLast? ≠ some 0x2F
  name : 0x3E ∉ nameIn content

theorem endsTag_slash {quote : Option UInt8} {content : Bytes} (h : endsTag quote content = true)
    (hquote : quote ≠ some 0x2F) : endsTag quote (content ++ [0x2F]) = true := by
  induction content generalizing quote with
  | nil =>
    obtain rfl := Option.isNone_iff_eq_none.1 h
    rfl
  | cons b content ih =>
    cases quote with
    | none =>
      simp only [List.cons_append, endsTag, Bool.and_eq_true] at h ⊢
      refine ⟨h.1, ih h.2 ?_⟩
      split
      · rename_i hb
        rcases hb with rfl | rfl <;> decide
      · exact (Option.some_ne_none _).symm
    | some q =>
      refine ih h ?_
      split
      · exact (Option.some_ne_none _).symm
      · exact hquote

/-- A slash that belongs to the name, because no white space comes before it, is taken off again. -/
theorem length_nameIn_slash (content : Bytes) :
    (if (nameIn (content ++ [0x2F])).length < content.length + 1 then (nameIn (content ++ [0x2F])).length
      else content.length) = (nameIn content).length := by
  have hle : (nameIn content).length ≤ content.length := (List.takeWhile_sublist _).length_le
  have hslash : nameIn (content ++ [0x2F]) =
      if (nameIn content).length = content.length then content ++ [0x2F] else nameIn content := by
    unfold nameIn
    rw [List.takeWhile_append]
    rfl
  rw [hslash]
  split
  · rename_i hall
    rw [List.length_append, List.length_singleton, if_neg (Nat.lt_irrefl _), hall]
  · rw [if_pos (Nat.lt_succ_of_le hle)]

theorem closingName_nameIn (content : Bytes) : Reader.closingName (nameIn content) = nameIn content := by
  unfold Reader.closingName Bytes.stripEnd
  split
  · rfl
  · rcases hrev : (nameIn content).reverse with _ | ⟨b, more⟩
    · rw [← List.reverse_reverse (nameIn content), hrev]
      rfl
    · have hb : Bytes.isSpace b = false := by
        have hmem : b ∈ nameIn content := List.mem_reverse.1 (hrev ▸ List.mem_cons_self ..)
        simpa using List.mem_takeWhile_imp hmem
      rw [List.dropWhile_cons_of_neg (by simp [hb]), ← hrev, List.reverse_reverse]

namespace Reader

variable {r : Reader} {text content tail : Bytes}

theorem step_of_tag (htext : 0x3C ∉ text) (hstart : isTagStart content = true)
    (hr : r.rest = text ++ 0x3C :: (content ++ tail)) :
    r.step = (r.advance (text.length + 1) (content ++ tail)).readTag := by
  rw [step, Bytes.cut_eq_some_iff.2 ⟨hr, htext⟩]
  cases content with
  | nil => cases hstart
  | cons b content =>
    simp only [isTagStart, Bool.and_eq_true, decide_eq_true_eq] at hstart
    obtain ⟨⟨hbang, hslash⟩, hquestion⟩ := hstart
    simp only [readMarkup, advance, List.cons_append, if_neg hbang, if_neg hslash, if_neg hquestion]

theorem readTag_selfClosed (hends : endsTag none content = true) (hr : r.rest = content ++ 0x2F :: 0x3E :: tail) :
    r.readTag = .next (some (.selfClosing (Tag.read r.encoding content (nameIn content).length)))
      (r.advance (content.length + 2) tail) := by
  have hcut : cutTag none [] r.rest = (content ++ [0x2F], true, tail) := by
    have happend := cutTag_append (endsTag_slash hends (Option.some_ne_none _).symm) [] tail
    rwa [List.append_assoc, List.singleton_append, ← hr] at happend
  have hlength := length_nameIn_slash content
  unfold nameIn at hlength ⊢
  unfold readTag
  simp only [hcut, List.getLast?_concat, if_true, List.dropLast_concat, List.length_append, List.length_singleton,
    Nat.add_sub_cancel, hlength]

theorem readTag_openClosed (hends : endsTag none content = true) (hlast : content.getLast? ≠ some 0x2F)
    (hr : r.rest = content ++ 0x3E :: tail) :
    r.readTag = .next (some (.opening (Tag.read r.encoding content (nameIn content).length)))
      { r.advance (content.length + 1) tail with openNames := nameIn content :: r.openNames } := by
  have hcut : cutTag none [] r.rest = (content, true, tail) := by
    rw [hr, cutTag_append hends]
    rfl
  unfold readTag
  simp only [hcut, if_neg hlast, if_true, nameIn]

/-- A reader goes through an opening tag in one step. -/
theorem step_of_opening (hcontent : Spellable content) (htext : 0x3C ∉ text)
    (hr : r.rest = text ++ 0x3C :: (content ++ 0x3E :: tail)) :
    r.step = .next (some (.opening (Tag.read r.encoding content (nameIn content).length)))
      ⟨tail, r.position + (text.length + 1) + (content.length + 1), nameIn content :: r.openNames, r.encoding,
        r.declared⟩ := by
  rw [step_of_tag htext hcontent.starts hr, readTag_openClosed hcontent.ends hcontent.last rfl]
  rfl

theorem step_of_closing {names : List Bytes} (hname : 0x3E ∉ nameIn content)
    (hopen : r.openNames = nameIn content :: names)
    (hr : r.rest = 0x3C :: 0x2F :: (nameIn content ++ 0x3E :: tail)) :
    r.step = .next (some .closing) { r.advance ((nameIn content).length + 3) tail with openNames := names } := by
  have hreading : r.step = (r.advance 1 (0x2F :: (nameIn content ++ 0x3E :: tail))).readClosing
      (nameIn content ++ 0x3E :: tail) := by
    rw [step, hr, Bytes.cut_cons_self]
    rfl
  rw [hreading]
  unfold readClosing
  rw [cutMarkup_append hname]
  simp only [advance, hopen, closingName_nameIn, if_true]
  congr 2
  omega

/-- A reader goes through a self-closing tag in one step. -/
theorem leads_selfClosed (hcontent : Spellable content) (htext : 0x3C ∉ text)
    (hr : r.rest = text ++ selfClosed content tail) :
    r.Leads [.selfClosing (Tag.read r.encoding content (nameIn content).length)]
      (r.advance (text.length + content.length + 3) tail) := by
  have hstep := step_of_tag htext hcontent.starts hr
  rw [readTag_selfClosed hcontent.ends rfl] at hstep
  have hplace : r.position + (text.length + 1) + (content.length + 2) =
      r.position + (text.length + content.length + 3) := by omega
  simp only [advance, hplace] at hstep
  exact .step hstep (.refl _)

/-- Through the tag written as two it goes in two steps, with the same tag first, and comes to the same rest. -/
theorem leads_openClosed (hcontent : Spellable content) (htext : 0x3C ∉ text)
    (hr : r.rest = text ++ openClosed content tail) :
    r.Leads [.opening (Tag.read r.encoding content (nameIn content).length), .closing]
      ((r.advance (text.length + content.length + 3) tail).moved ((nameIn content).length + 2)) := by
  have hopening := step_of_opening hcontent htext hr
  have hclosing := @step_of_closing ⟨0x3C :: 0x2F :: (nameIn content ++ 0x3E :: tail),
    r.position + (text.length + 1) + (content.length + 1), nameIn content :: r.openNames, r.encoding, r.declared⟩
    content tail r.openNames hcontent.name rfl rfl
  have hplace : r.position + (text.length + 1) + (content.length + 1) + ((nameIn content).length + 3) =
      r.position + (text.length + content.length + 3) + ((nameIn content).length + 2) := by omega
  simp only [advance, hplace] at hclosing
  exact .step hopening (.step hclosing (.refl _))

end Reader

/-! ## Documents -/

namespace Encoding

theorem exists_of_append_eq {front rest rest' : Bytes} {b : UInt8} (mark : Bytes)
    (h : front ++ b :: rest = mark ++ rest') (hb : b ∈ [0x2F, 0x3E])
    (hmark : mark.any ([0x2F, 0x3E].contains ·) = false) : ∃ more, front = mark ++ more := by
  rcases List.append_eq_append_iff.1 h with ⟨more, rfl, hmore⟩ | ⟨more, hfront, -⟩
  · cases more with
    | nil => exact ⟨[], by simp⟩
    | cons c more =>
      cases hmore
      have hnot := List.any_eq_false.1 hmark b (by simp)
      exact absurd (List.contains_iff_mem.2 hb) hnot
  · exact ⟨more, hfront⟩

/-- The encoding of a document is told by its first bytes, and a bracket says as little of it as a slash. -/
theorem exists_detect (front : Bytes) :
    ∃ e left, ∀ b ∈ [0x2F, 0x3E], ∀ rest, detect (front ++ b :: rest) = (e, left ++ b :: rest) := by
  rcases hdetect : detect front with ⟨e, left⟩
  refine ⟨e, left, fun b hb rest => ?_⟩
  unfold detect at hdetect
  split at hdetect
  iterate 5
    cases hdetect
    rfl
  -- nothing in front tells the encoding, and neither byte is part of what would
  rename_i hbig hlittle hmark hbigText hlittleText
  cases hdetect
  unfold detect
  split
  · rename_i heq
    obtain ⟨more, rfl⟩ := exists_of_append_eq [0xFE, 0xFF] heq hb rfl
    exact absurd rfl (hbig more)
  · rename_i heq
    obtain ⟨more, rfl⟩ := exists_of_append_eq [0xFF, 0xFE] heq hb rfl
    exact absurd rfl (hlittle more)
  · rename_i heq
    obtain ⟨more, rfl⟩ := exists_of_append_eq [0xEF, 0xBB, 0xBF] heq hb rfl
    exact absurd rfl (hmark more)
  · rename_i heq
    obtain ⟨more, rfl⟩ := exists_of_append_eq [0x00, 0x3C, 0x00, 0x3F] heq hb rfl
    exact absurd rfl (hbigText more)
  · rename_i heq
    obtain ⟨more, rfl⟩ := exists_of_append_eq [0x3C, 0x00, 0x3F, 0x00] heq hb rfl
    exact absurd rfl (hlittleText more)
  · rfl

end Encoding

theorem start_openClosed {head front content tail : Bytes}
    (h : (Reader.start (head ++ selfClosed content tail)).rest = front ++ selfClosed content tail) :
    Reader.start (head ++ openClosed content tail) =
      (Reader.start (head ++ selfClosed content tail)).withRest (front ++ openClosed content tail) := by
  obtain ⟨e, left, hdetect⟩ := Encoding.exists_detect (head ++ 0x3C :: content)
  have hself := hdetect 0x2F (by decide) (0x3E :: tail)
  have hopen := hdetect 0x3E (by decide) (0x3C :: 0x2F :: (nameIn content ++ 0x3E :: tail))
  rw [List.append_assoc, List.cons_append] at hself hopen
  rw [selfClosed, Reader.start, hself] at h
  have hleft : left = front ++ 0x3C :: content := by
    refine List.append_cancel_right (h.trans ?_)
    rw [List.append_assoc, List.cons_append]
  rw [selfClosed, openClosed, Reader.start, Reader.start, hself, hopen, hleft, List.append_assoc, List.cons_append]
  rfl

section

variable {head text content tail : Bytes} {before : List Event} {r : Reader}

/-- Where a reader comes to a self-closing tag in a document, the tag may be written as two: the events before it stay
the same, and those after it are further on. -/
theorem eventsOf_openClosed (hcontent : Spellable content) (htext : 0x3C ∉ text)
    (hr : (Reader.start (head ++ selfClosed content tail)).Leads before r)
    (hrest : r.rest = text ++ selfClosed content tail) :
    ∃ read after, eventsOf (head ++ selfClosed content tail) = before ++ .selfClosing read :: after ∧
      eventsOf (head ++ openClosed content tail) =
        before ++ .opening read :: .closing :: after.map (.moved ((nameIn content).length + 2)) := by
  refine ⟨Tag.read r.encoding content (nameIn content).length,
    (r.advance (text.length + content.length + 3) tail).events, ?_, ?_⟩
  · rw [eventsOf, hr.events_eq, (Reader.leads_selfClosed hcontent htext hrest).events_eq]
    rfl
  · obtain ⟨used, hused, hleads⟩ := hr.exists_used (by simp [hrest, selfClosed])
    rw [hrest, ← List.append_assoc] at hused
    have hopened := hleads (text ++ openClosed content tail)
    rw [← List.append_assoc, ← start_openClosed hused] at hopened
    have htag := @Reader.leads_openClosed (r.withRest (text ++ openClosed content tail)) text content tail
      hcontent htext rfl
    rw [eventsOf, hopened.events_eq, htag.events_eq, Reader.events_moved]
    rfl

/-- Events further on lead to the same tree, or to a fault of the same kind. -/
theorem Partial.agree_takeAll_moved (limits : Limits) (p : Partial) (events : List Event) (count : Nat) :
    Agree (· = ·) (p.takeAll limits events) (p.takeAll limits (events.map (.moved count))) := by
  induction events generalizing p with
  | nil => exact .ok rfl
  | cons event events ih =>
    cases event with
    | malformed position reason => exact agree_fail rfl
    | opening read | selfClosing read | closing =>
      refine (agree_refl (fun _ => rfl) _).bind ?_
      rintro p' _ rfl
      exact ih p'

/-- A document in which a self-closing tag is written as two has the same tree, or is refused for a fault of the same
kind. -/
theorem rootOf_openClosed (hcontent : Spellable content) (htext : 0x3C ∉ text)
    (hr : (Reader.start (head ++ selfClosed content tail)).Leads before r)
    (hrest : r.rest = text ++ selfClosed content tail) (limits : Limits) :
    Agree (· = ·) (rootOf limits (head ++ selfClosed content tail))
      (rootOf limits (head ++ openClosed content tail)) := by
  obtain ⟨read, after, hself, hopen⟩ := eventsOf_openClosed hcontent htext hr hrest
  unfold rootOf rootOfEvents
  rw [hself, hopen, Partial.takeAll_append, Partial.takeAll_append]
  simp only [← Partial.takeAll_selfClosing, bind_assoc]
  refine (agree_refl (fun _ => rfl) _).bind ?_
  rintro p _ rfl
  refine (p.agree_takeAll_moved limits (.selfClosing read :: after) _).bind ?_
  rintro p' _ rfl
  exact agree_refl (fun _ => rfl) _

end

theorem rootOf_openClosed_nested :
    Agree (· = ·) (rootOf .standard (Bytes.ofString "<a><b x='1'/></a>"))
        (rootOf .standard (Bytes.ofString "<a><b x='1'></b></a>")) ∧
      (rootOf .standard (Bytes.ofString "<a><b x='1'/></a>")).toOption.map
        (fun root => (nodesOf root).map fun node => (node.1, node.2.name, node.2.attributes)) =
          some [(0, ⟨"", "a"⟩, []), (1, ⟨"", "b"⟩, [(⟨"", "x"⟩, "1")])] := by
  have hself : Bytes.ofString "<a><b x='1'/></a>" =
      Bytes.ofString "<a>" ++ selfClosed (Bytes.ofString "b x='1'") (Bytes.ofString "</a>") := by decide +kernel
  have hopen : Bytes.ofString "<a><b x='1'></b></a>" =
      Bytes.ofString "<a>" ++ openClosed (Bytes.ofString "b x='1'") (Bytes.ofString "</a>") := by decide +kernel
  have houter : Spellable (Bytes.ofString "a") :=
    ⟨by decide +kernel, by decide +kernel, by decide +kernel, by decide +kernel⟩
  have hinner : Spellable (Bytes.ofString "b x='1'") :=
    ⟨by decide +kernel, by decide +kernel, by decide +kernel, by decide +kernel⟩
  -- the reader comes to the inner tag when it has gone through the outer one
  have hstep := @Reader.step_of_opening (Reader.start (Bytes.ofString "<a>" ++ selfClosed (Bytes.ofString "b x='1'")
    (Bytes.ofString "</a>"))) [] (Bytes.ofString "a") (selfClosed (Bytes.ofString "b x='1'") (Bytes.ofString "</a>"))
    houter List.not_mem_nil (by decide +kernel)
  refine ⟨?_, by decide +kernel⟩
  rw [hself, hopen]
  exact rootOf_openClosed hinner List.not_mem_nil (.step hstep (.refl _)) rfl .standard

end SchemaHints.Xml
