/-
Reading on. A reader goes from one construct to the next. Each construct but the last has a bracket of its own at its
end, so that what has been read of a document does not depend on what follows. And a reader looks at where it stands
only to say where the markup is broken: the same bytes further on give the same events, with the places of faults moved.
By this two documents can be compared that differ in one construct, as with a tag that is written as two.
-/
import SchemaHints.Xml.Event

namespace SchemaHints

/-! ## Cutting at a bracket -/

namespace Bytes

theorem cut_cons_self (b : UInt8) (bytes : Bytes) : cut b (b :: bytes) = ([], some bytes) := by
  simp [cut]

theorem cut_cons_of_ne {b c : UInt8} (h : c ≠ b) (bytes : Bytes) :
    cut b (c :: bytes) = (c :: (cut b bytes).1, (cut b bytes).2) := by
  simp [cut, h]

/-- Bytes are cut at the first of the bytes sought. -/
theorem cut_eq_some_iff {b : UInt8} {bytes text rest : Bytes} :
    cut b bytes = (text, some rest) ↔ bytes = text ++ b :: rest ∧ b ∉ text := by
  constructor
  · intro h
    induction bytes generalizing text with
    | nil => cases h
    | cons c bytes ih =>
      by_cases hc : c = b
      · rw [hc, cut_cons_self] at h
        cases h
        exact ⟨by rw [hc]; rfl, List.not_mem_nil⟩
      · rw [cut_cons_of_ne hc] at h
        rcases hcut : cut b bytes with ⟨before, after⟩
        rw [hcut] at h
        cases h
        obtain ⟨rfl, hbefore⟩ := ih hcut
        exact ⟨rfl, List.not_mem_cons_of_ne_of_not_mem (Ne.symm hc) hbefore⟩
  · rintro ⟨rfl, h⟩
    induction text with
    | nil => exact cut_cons_self b rest
    | cons c text ih =>
      have hc : c ≠ b := fun heq => h (heq ▸ List.mem_cons_self ..)
      rw [List.cons_append, cut_cons_of_ne hc, ih fun htext => h (List.mem_cons_of_mem c htext)]

end Bytes

namespace Xml

/-- Nothing is left after markup whose bracket is missing. -/
theorem cutMarkup_cases {bytes text rest : Bytes} {closed : Bool} (h : cutMarkup bytes = (text, closed, rest)) :
    (closed = true ∧ bytes = text ++ 0x3E :: rest ∧ 0x3E ∉ text) ∨ (closed = false ∧ rest = []) := by
  unfold cutMarkup at h
  split at h
  · rename_i hcut
    cases h
    exact .inl ⟨rfl, Bytes.cut_eq_some_iff.1 hcut⟩
  · cases h
    exact .inr ⟨rfl, rfl⟩

theorem cutMarkup_append {text : Bytes} (h : 0x3E ∉ text) (rest : Bytes) :
    cutMarkup (text ++ 0x3E :: rest) = (text, true, rest) := by
  unfold cutMarkup
  rw [Bytes.cut_eq_some_iff.2 ⟨rfl, h⟩]

/-- Whether a tag whose content goes on like this, inside the quotes `quote`, ends right after it. -/
def endsTag (quote : Option UInt8) : Bytes → Bool
  | [] => quote.isNone
  | b :: rest => match quote with
    | none => b ≠ 0x3E && endsTag (if b = 0x22 ∨ b = 0x27 then some b else none) rest
    | some q => endsTag (if b = q then none else some q) rest

theorem cutTag_append {quote : Option UInt8} {content : Bytes} (h : endsTag quote content = true) (seen rest : Bytes) :
    cutTag quote seen (content ++ 0x3E :: rest) = (seen.reverse ++ content, true, rest) := by
  induction content generalizing quote seen with
  | nil =>
    obtain rfl := Option.isNone_iff_eq_none.1 h
    simp [cutTag]
  | cons b content ih =>
    cases quote with
    | none =>
      simp only [endsTag, Bool.and_eq_true, decide_eq_true_eq] at h
      rw [List.cons_append, cutTag, if_neg h.1, ih h.2]
      simp
    | some q =>
      rw [List.cons_append, cutTag, ih h]
      simp

theorem cutTag_cases {quote : Option UInt8} {seen bytes content rest : Bytes} {closed : Bool}
    (h : cutTag quote seen bytes = (content, closed, rest)) :
    (closed = true ∧ ∃ more, content = seen.reverse ++ more ∧ bytes = more ++ 0x3E :: rest ∧
      endsTag quote more = true) ∨ (closed = false ∧ rest = []) := by
  induction bytes generalizing quote seen with
  | nil =>
    cases h
    exact .inr ⟨rfl, rfl⟩
  | cons b bytes ih =>
    cases quote with
    | none =>
      rw [cutTag] at h
      split at h
      · rename_i hb
        cases h
        exact .inl ⟨rfl, [], by simp, by simp [hb], rfl⟩
      · rename_i hb
        refine (ih h).imp_left ?_
        rintro ⟨hclosed, more, hcontent, hbytes, hends⟩
        refine ⟨hclosed, b :: more, by simp [hcontent], by simp [hbytes], ?_⟩
        simp [endsTag, hb, hends]
    | some q =>
      refine (ih h).imp_left ?_
      rintro ⟨hclosed, more, hcontent, hbytes, hends⟩
      exact ⟨hclosed, b :: more, by simp [hcontent], by simp [hbytes], hends⟩

namespace Section

/-- A section ends where it ends whatever follows. -/
theorem cut?_local {s : Section} {seen bytes buf rest : Bytes} (h : s.cut? seen bytes = some (buf, rest)) :
    ∃ used, bytes = used ++ 0x3E :: rest ∧ ∀ rest', s.cut? seen (used ++ 0x3E :: rest') = some (buf, rest') := by
  induction bytes generalizing seen with
  | nil => cases h
  | cons b bytes ih =>
    rw [cut?] at h
    split at h
    · rename_i hend
      cases h
      obtain ⟨hb, hmay⟩ := Bool.and_eq_true_iff.1 hend
      obtain rfl := of_decide_eq_true hb
      exact ⟨[], rfl, fun rest' => by rw [List.nil_append, cut?, if_pos hend]⟩
    · rename_i hend
      obtain ⟨used, hbytes, hlocal⟩ := ih h
      exact ⟨b :: used, by rw [hbytes]; rfl, fun rest' => by rw [List.cons_append, cut?, if_neg hend, hlocal]⟩

end Section

namespace Reader

/-! ## What follows -/

/-- A reader with other bytes left to read. -/
def withRest (r : Reader) (rest : Bytes) : Reader := { r with rest := rest }

/-- A declaration changes nothing but the encoding, and looks at nothing else. -/
theorem exists_declare (r : Reader) (content : Bytes) :
    ∃ encoding declared, ∀ rest position openNames,
      declare ⟨rest, position, openNames, r.encoding, r.declared⟩ content =
        ⟨rest, position, openNames, encoding, declared⟩ := by
  unfold declare
  cases r.declared with
  | true => exact ⟨_, true, fun _ _ _ => rfl⟩
  | false =>
    cases Tag.rawValue? (Bytes.ofString "encoding") content.length (content.drop 3) with
    | none => exact ⟨_, false, fun _ _ _ => rfl⟩
    | some label =>
      simp only
      cases Encoding.ofLabel? label with
      | none => exact ⟨_, false, fun _ _ _ => rfl⟩
      | some encoding => exact ⟨encoding, true, fun _ _ _ => rfl⟩

theorem declare_withRest (r : Reader) (content rest : Bytes) :
    (r.withRest rest).declare content = (r.declare content).withRest rest := by
  obtain ⟨encoding, declared, hdeclare⟩ := r.exists_declare content
  exact (hdeclare rest r.position r.openNames).trans (congrArg (withRest · rest) (hdeclare r.rest _ _)).symm

theorem readBang_local {r r' : Reader} {body : Bytes} {event : Option Event} (h : r.readBang body = .next event r') :
    ∃ used, body = used ++ r'.rest ∧
      ∀ left rest, (r.withRest left).readBang (used ++ rest) = .next event (r'.withRest rest) := by
  unfold readBang at h
  split at h
  · cases h
  rename_i b body
  split at h
  · cases h
  rename_i s hs
  split at h
  · cases h
  rename_i buf rest hcut
  simp only at h
  split at h
  · cases h
  rename_i hfault
  cases h
  obtain ⟨used, hbody, hlocal⟩ := Section.cut?_local hcut
  -- the byte that announces the section is no bracket, so it is among those used
  cases used with
  | nil =>
    cases hbody
    cases hs
  | cons b' used =>
    cases hbody
    refine ⟨b :: used ++ [0x3E], by simp [advance], fun left rest' => ?_⟩
    have hcut' := hlocal rest'
    unfold readBang
    simp only [List.append_assoc, List.cons_append, List.nil_append, hs] at hcut' ⊢
    rw [hcut']
    simp only [hfault]
    rfl

theorem readClosing_local {r r' : Reader} {body : Bytes} {event : Option Event}
    (h : r.readClosing body = .next event r') (hrest : r'.rest ≠ []) :
    ∃ used, body = used ++ r'.rest ∧
      ∀ left rest, (r.withRest left).readClosing (used ++ rest) = .next event (r'.withRest rest) := by
  unfold readClosing at h
  rcases hcut : cutMarkup body with ⟨text, closed, rest⟩
  simp only [hcut] at h
  split at h
  · cases h
  rename_i expected openNames hopen
  split at h
  · rename_i hname
    cases h
    obtain ⟨rfl, hbody, htext⟩ | ⟨-, rfl⟩ := cutMarkup_cases hcut
    · refine ⟨text ++ [0x3E], by simp [hbody, advance], fun left rest' => ?_⟩
      unfold readClosing
      rw [List.append_assoc, List.singleton_append, cutMarkup_append htext]
      simp only [withRest, hopen, if_pos hname]
      rfl
    · exact absurd rfl hrest
  · cases h

theorem readInstruction_local {r r' : Reader} {body : Bytes} {event : Option Event}
    (h : r.readInstruction body = .next event r') (hrest : r'.rest ≠ []) :
    ∃ used, body = used ++ r'.rest ∧
      ∀ left rest, (r.withRest left).readInstruction (used ++ rest) = .next event (r'.withRest rest) := by
  unfold readInstruction at h
  rcases hcut : cutMarkup body with ⟨text, closed, rest⟩
  simp only [hcut] at h
  split at h
  · rename_i hends
    cases h
    -- a declaration may change the encoding, but nothing of what is left
    have hleft : rest ≠ [] := by
      intro hnil
      apply hrest
      split
      · rw [declare_rest]; exact hnil
      · exact hnil
    obtain ⟨rfl, hbody, htext⟩ | ⟨-, rfl⟩ := cutMarkup_cases hcut
    · refine ⟨text ++ [0x3E], ?_, fun left rest' => ?_⟩
      · split
        · simp [hbody, declare_rest, advance]
        · simp [hbody, advance]
      · unfold readInstruction
        rw [List.append_assoc, List.singleton_append, cutMarkup_append htext]
        simp only [if_pos hends]
        split
        · rw [← declare_withRest]
          rfl
        · rfl
    · exact absurd rfl hleft
  · cases h

theorem readTag_local {r r' : Reader} {event : Option Event} (h : r.readTag = .next event r') (hrest : r'.rest ≠ []) :
    ∃ used, r.rest = used ++ r'.rest ∧ used ≠ [] ∧
      ∀ rest, (r.withRest (used ++ rest)).readTag = .next event (r'.withRest rest) := by
  unfold readTag at h
  rcases hcut : cutTag none [] r.rest with ⟨content, closed, rest⟩
  simp only [hcut] at h
  have hleft : r'.rest = rest := by
    split at h <;> cases h <;> rfl
  obtain ⟨rfl, content, rfl, hbytes, hends⟩ | ⟨-, rfl⟩ := cutTag_cases hcut
  · refine ⟨content ++ [0x3E], by simp [hbytes, hleft], by simp, fun rest' => ?_⟩
    unfold readTag
    have hcut' : cutTag none [] (r.withRest (content ++ [0x3E] ++ rest')).rest = (content, true, rest') := by
      rw [withRest, List.append_assoc, List.singleton_append, cutTag_append hends]
      rfl
    simp only [hcut']
    split at h
    · rename_i hslash
      cases h
      rw [if_pos hslash]
      rfl
    · rename_i hslash
      cases h
      rw [if_neg hslash]
      rfl
  · exact absurd hleft hrest

theorem readMarkup_local {r r' : Reader} {event : Option Event} (h : r.readMarkup = .next event r')
    (hrest : r'.rest ≠ []) :
    ∃ used, r.rest = used ++ r'.rest ∧
      ∀ rest, (r.withRest (used ++ rest)).readMarkup = .next event (r'.withRest rest) := by
  unfold readMarkup at h
  split at h
  · cases h
  rename_i b body hbody
  split at h
  · rename_i hb
    obtain ⟨used, rfl, hlocal⟩ := readBang_local h
    refine ⟨b :: used, hbody, fun rest => ?_⟩
    simp only [readMarkup, withRest, List.cons_append, if_pos hb]
    exact hlocal _ rest
  rename_i hbang
  split at h
  · rename_i hb
    obtain ⟨used, rfl, hlocal⟩ := readClosing_local h hrest
    refine ⟨b :: used, hbody, fun rest => ?_⟩
    simp only [readMarkup, withRest, List.cons_append, if_neg hbang, if_pos hb]
    exact hlocal _ rest
  rename_i hslash
  split at h
  · rename_i hb
    obtain ⟨used, rfl, hlocal⟩ := readInstruction_local h hrest
    refine ⟨b :: used, hbody, fun rest => ?_⟩
    simp only [readMarkup, withRest, List.cons_append, if_neg hbang, if_neg hslash, if_pos hb]
    exact hlocal _ rest
  · rename_i hquestion
    obtain ⟨used, hused, hne, hlocal⟩ := readTag_local h hrest
    refine ⟨used, hused, fun rest => ?_⟩
    rw [← hlocal rest]
    cases used with
    | nil => exact absurd rfl hne
    | cons b' used =>
      rw [hbody] at hused
      cases hused
      simp only [readMarkup, withRest, List.cons_append, if_neg hbang, if_neg hslash, if_neg hquestion]

/-- What a step reads does not depend on what it leaves, if it leaves anything. -/
theorem step_local {r r' : Reader} {event : Option Event} (h : r.step = .next event r') (hrest : r'.rest ≠ []) :
    ∃ used, r.rest = used ++ r'.rest ∧ ∀ rest, (r.withRest (used ++ rest)).step = .next event (r'.withRest rest) := by
  unfold step at h
  split at h
  · cases h
  rename_i text rest hcut
  obtain ⟨hrests, htext⟩ := Bytes.cut_eq_some_iff.1 hcut
  obtain ⟨used, hused, hlocal⟩ := readMarkup_local h hrest
  refine ⟨text ++ 0x3C :: used, ?_, fun rest' => ?_⟩
  · rw [hrests, List.append_assoc, List.cons_append, ← hused]
    rfl
  · have hcut' : Bytes.cut 0x3C (r.withRest (text ++ 0x3C :: used ++ rest')).rest = (text, some (used ++ rest')) :=
      Bytes.cut_eq_some_iff.2 ⟨by rw [withRest, List.append_assoc, List.cons_append], htext⟩
    rw [step, hcut']
    exact hlocal rest'

/-! ## Runs -/

/-- Step by step the first reader delivers the events and becomes the second. -/
inductive Leads : Reader → List Event → Reader → Prop
  | refl (r : Reader) : Leads r [] r
  | step {r r' final : Reader} {event : Option Event} {events : List Event} :
    r.step = .next event r' → Leads r' events final → Leads r (event.toList ++ events) final

theorem events_of_finished {r : Reader} (h : r.step = .finished) : r.events = [] := by
  rw [events]
  split
  · rfl
  all_goals
    rename_i hstep
    cases h.symm.trans hstep

theorem events_of_broken {r : Reader} {position : Nat} {reason : MarkupFault} (h : r.step = .broken position reason) :
    r.events = [.malformed position reason] := by
  rw [events]
  split
  all_goals
    rename_i hstep
    cases h.symm.trans hstep
  rfl

theorem events_of_step {r r' : Reader} {event : Option Event} (h : r.step = .next event r') :
    r.events = event.toList ++ r'.events := by
  rw [events]
  split
  all_goals
    rename_i hstep
    cases h.symm.trans hstep
  all_goals rfl

namespace Leads

variable {r final : Reader} {delivered : List Event}

theorem events_eq (h : r.Leads delivered final) : r.events = delivered ++ final.events := by
  induction h with
  | refl => rfl
  | step hstep _ ih => rw [events_of_step hstep, ih, List.append_assoc]

theorem rest_ne_nil (h : r.Leads delivered final) (hrest : final.rest ≠ []) : r.rest ≠ [] := by
  cases h with
  | refl => exact hrest
  | step hstep _ =>
    intro hnil
    have hlt := step_length hstep
    rw [hnil] at hlt
    exact absurd hlt (Nat.not_lt_zero _)

/-- What has been read does not depend on what is left, if anything is. -/
theorem exists_used (h : r.Leads delivered final) (hrest : final.rest ≠ []) :
    ∃ used, r.rest = used ++ final.rest ∧ ∀ rest, (r.withRest (used ++ rest)).Leads delivered (final.withRest rest) := by
  induction h with
  | refl r => exact ⟨[], rfl, fun rest => .refl _⟩
  | step hstep hleads ih =>
    obtain ⟨used', hused', hleads'⟩ := ih hrest
    obtain ⟨used, hused, hstep'⟩ := step_local hstep (hleads.rest_ne_nil hrest)
    refine ⟨used ++ used', by rw [hused, hused', List.append_assoc], fun rest => ?_⟩
    rw [List.append_assoc]
    exact .step (hstep' _) (hleads' rest)

end Leads

/-! ## Places -/

/-- A reader further on in a document. -/
def moved (count : Nat) (r : Reader) : Reader := { r with position := r.position + count }

end Reader

/-- An event further on in a document. -/
def Event.moved (count : Nat) : Event → Event
  | .malformed position reason => .malformed (position + count) reason
  | .opening read => .opening read
  | .selfClosing read => .selfClosing read
  | .closing => .closing

/-- A step further on in a document. -/
def Step.moved (count : Nat) : Step → Step
  | .finished => .finished
  | .broken position reason => .broken (position + count) reason
  | .next event r => .next (event.map (.moved count)) (r.moved count)

namespace Reader

variable (count : Nat) (r : Reader)

theorem rest_moved : (r.moved count).rest = r.rest := rfl

theorem advance_moved (n : Nat) (rest : Bytes) : (r.moved count).advance n rest = (r.advance n rest).moved count := by
  simp only [advance, moved, Nat.add_right_comm]

theorem declare_moved (content : Bytes) : (r.moved count).declare content = (r.declare content).moved count := by
  obtain ⟨encoding, declared, hdeclare⟩ := r.exists_declare content
  exact (hdeclare r.rest (r.position + count) r.openNames).trans
    (congrArg (moved count) (hdeclare r.rest r.position r.openNames)).symm

theorem readBang_moved (body : Bytes) : (r.moved count).readBang body = (r.readBang body).moved count := by
  unfold readBang
  cases body with
  | nil => rfl
  | cons b body =>
    simp only
    cases Section.ofByte? b with
    | none => rfl
    | some s =>
      simp only
      cases s.cut? [0x21] (b :: body) with
      | none => rfl
      | some cut =>
        simp only [advance_moved]
        cases s.fault? cut.1 <;> rfl

theorem readClosing_moved (body : Bytes) : (r.moved count).readClosing body = (r.readClosing body).moved count := by
  unfold readClosing
  rcases cutMarkup body with ⟨text, closed, rest⟩
  obtain ⟨left, position, openNames, encoding, declared⟩ := r
  cases openNames with
  | nil => simp only [moved, Step.moved, Nat.add_right_comm]
  | cons expected openNames =>
    by_cases hname : closingName text = expected
    · simp only [moved, advance, Step.moved, if_pos hname, Nat.add_right_comm]
      rfl
    · simp only [moved, Step.moved, if_neg hname, Nat.add_right_comm]

theorem readInstruction_moved (body : Bytes) :
    (r.moved count).readInstruction body = (r.readInstruction body).moved count := by
  unfold readInstruction
  rcases cutMarkup body with ⟨text, closed, rest⟩
  by_cases hends : 2 ≤ text.length ∧ text.getLast? = some 0x3F
  · simp only [if_pos hends, advance_moved, declare_moved]
    split <;> rfl
  · simp only [if_neg hends, moved, Step.moved, Nat.add_right_comm]

theorem readTag_moved : (r.moved count).readTag = r.readTag.moved count := by
  unfold readTag
  rw [rest_moved]
  rcases cutTag none [] r.rest with ⟨content, closed, rest⟩
  simp only [advance_moved]
  by_cases hslash : content.getLast? = some 0x2F
  · simp only [if_pos hslash]
    rfl
  · simp only [if_neg hslash]
    rfl

theorem readMarkup_moved : (r.moved count).readMarkup = r.readMarkup.moved count := by
  unfold readMarkup
  rw [rest_moved]
  cases r.rest with
  | nil => rfl
  | cons b body =>
    simp only [readBang_moved, readClosing_moved, readInstruction_moved, readTag_moved, ← apply_ite (Step.moved count)]

/-- A reader does not look at where it stands. -/
theorem step_moved : (r.moved count).step = r.step.moved count := by
  unfold step
  rw [rest_moved]
  rcases Bytes.cut 0x3C r.rest with ⟨text, _ | rest⟩
  · rfl
  · simp only [advance_moved, readMarkup_moved]

/-- Further on in a document the same bytes give the same events, with the places of faults moved. -/
theorem events_moved : (r.moved count).events = r.events.map (.moved count) := by
  fun_induction events r with
  | case1 r hstep =>
    have hmoved := step_moved count r
    rw [hstep] at hmoved
    exact events_of_finished hmoved
  | case2 r position reason hstep =>
    have hmoved := step_moved count r
    rw [hstep] at hmoved
    exact events_of_broken hmoved
  | case3 r r' hstep ih =>
    have hmoved := step_moved count r
    rw [hstep] at hmoved
    rw [events_of_step hmoved]
    exact ih
  | case4 r event r' hstep ih =>
    have hmoved := step_moved count r
    rw [hstep] at hmoved
    rw [events_of_step hmoved, ih]
    rfl

end Reader

end Xml

end SchemaHints
