/-
Computations by their outcomes: what one gives another gives too, or what it gives, or the faults that it
fails with, are all of some sort. All are shown the same way, for one step after another, because a computation
of several steps gives what its last step gives and fails with the fault of the first step that fails.
-/
import SchemaHints.Fault

namespace SchemaHints.Result

variable {α β : Type}

/-! ## Computations that keep what others give -/

/-- Whatever `x` gives, `y` gives too. -/
def KeptBy (x y : Result α) : Prop := ∀ a, x = .ok a → y = .ok a

theorem keptBy_refl (x : Result α) : KeptBy x x := fun _ => id

theorem keptBy_fail (cause : Cause) (y : Result α) : KeptBy (fail cause) y := fun _ => nofun

/-- Steps that are kept make up a computation that is kept. -/
theorem KeptBy.bind {x y : Result α} {f g : α → Result β} (h : KeptBy x y) (hf : ∀ a, KeptBy (f a) (g a)) :
    KeptBy (x >>= f) (y >>= g) := by
  intro b hb
  obtain ⟨a, ha, hb⟩ := Result.bind_eq_ok.1 hb
  exact Result.bind_eq_ok.2 ⟨a, h a ha, hf a b hb⟩

theorem KeptBy.reportedAt {x y : Result α} (h : KeptBy x y) (location : String) :
    KeptBy (x.reportedAt location) (y.reportedAt location) := by
  intro a ha
  rcases x with e | b
  · cases ha
  · rw [h b rfl]
    exact ha

/-! ## Computations that keep what others give up to a relation -/

variable {γ δ : Type}

/-- Whenever `x` gives something, `y` gives something related to it. -/
def KeptAs (R : α → β → Prop) (x : Result α) (y : Result β) : Prop := ∀ a, x = .ok a → ∃ b, y = .ok b ∧ R a b

theorem keptAs_ok {R : α → β → Prop} {a : α} {b : β} (h : R a b) : KeptAs R (.ok a) (.ok b) := by
  rintro _ ⟨⟩
  exact ⟨b, rfl, h⟩

theorem keptAs_refl {R : α → α → Prop} (h : ∀ a, R a a) (x : Result α) : KeptAs R x x := fun a ha => ⟨a, ha, h a⟩

theorem KeptAs.bind {R : α → β → Prop} {Q : γ → δ → Prop} {x : Result α} {y : Result β} {f : α → Result γ}
    {g : β → Result δ} (h : KeptAs R x y) (hf : ∀ a b, R a b → KeptAs Q (f a) (g b)) :
    KeptAs Q (x >>= f) (y >>= g) := by
  intro c hc
  obtain ⟨a, ha, hc⟩ := Result.bind_eq_ok.1 hc
  obtain ⟨b, hb, hab⟩ := h a ha
  obtain ⟨d, hd, hcd⟩ := hf a b hab c hc
  exact ⟨d, Result.bind_eq_ok.2 ⟨b, hb, hd⟩, hcd⟩

theorem KeptAs.reportedAt {R : α → β → Prop} {x : Result α} {y : Result β} (h : KeptAs R x y) (location : String) :
    KeptAs R (x.reportedAt location) (y.reportedAt location) := by
  intro a ha
  rcases x with e | a'
  · cases ha
  · cases ha
    obtain ⟨b, rfl, hab⟩ := h a rfl
    exact ⟨b, rfl, hab⟩

/-! ## Computations that come out alike -/

/-- Both give something, and what they give is related, or both fail, with faults of one kind. -/
inductive Agree (R : α → β → Prop) : Result α → Result β → Prop
  | ok {a : α} {b : β} : R a b → Agree R (.ok a) (.ok b)
  | error {e f : Fault} : f.kind = e.kind → Agree R (.error e) (.error f)

theorem agree_refl {R : α → α → Prop} (h : ∀ a, R a a) (x : Result α) : Agree R x x := by
  cases x with
  | error e => exact .error rfl
  | ok a => exact .ok (h a)

theorem agree_fail {R : α → β → Prop} {cause cause' : Cause} (h : cause'.kind = cause.kind) :
    Agree R (fail cause) (fail cause') := .error h

theorem agree_failAt {R : α → β → Prop} {location location' : String} {cause cause' : Cause}
    (h : cause'.kind = cause.kind) : Agree R (failAt location cause) (failAt location' cause') := .error h

namespace Agree

theorem bind {R : α → β → Prop} {Q : γ → δ → Prop} {x : Result α} {y : Result β} {f : α → Result γ}
    {g : β → Result δ} (h : Agree R x y) (hf : ∀ a b, R a b → Agree Q (f a) (g b)) :
    Agree Q (x >>= f) (y >>= g) := by
  cases h with
  | ok h => exact hf _ _ h
  | error h => exact .error h

theorem mono {R Q : α → β → Prop} {x : Result α} {y : Result β} (h : Agree R x y) (hRQ : ∀ a b, R a b → Q a b) :
    Agree Q x y := by
  cases h with
  | ok h => exact .ok (hRQ _ _ h)
  | error h => exact .error h

/-- A report keeps faults of one kind in one kind, wherever it places them. -/
theorem reportedAt {R : α → β → Prop} {x : Result α} {y : Result β} (h : Agree R x y) (location location' : String) :
    Agree R (x.reportedAt location) (y.reportedAt location') := by
  cases h with
  | ok h => exact .ok h
  | error h =>
    refine .error ?_
    unfold Fault.reportedAt
    rw [h]
    split
    · exact h
    · rfl

theorem keptAs {R : α → β → Prop} {x : Result α} {y : Result β} (h : Agree R x y) : KeptAs R x y := by
  cases h with
  | ok h => exact keptAs_ok h
  | error h => exact fun _ => nofun

end Agree

/-! ## What a computation gives -/

/-- Whatever `x` gives is as `P` says. -/
def Gives (P : α → Prop) (x : Result α) : Prop := ∀ a, x = .ok a → P a

theorem gives_ok {P : α → Prop} {a : α} (h : P a) : Gives P (.ok a) := by
  rintro _ ⟨⟩
  exact h

/-- A computation of two steps gives what the second gives after the first. -/
theorem Gives.bind {P : α → Prop} {Q : β → Prop} {x : Result α} {f : α → Result β} (h : Gives P x)
    (hf : ∀ a, P a → Gives Q (f a)) : Gives Q (x >>= f) := by
  intro b hb
  obtain ⟨a, ha, hb⟩ := Result.bind_eq_ok.1 hb
  exact hf a (h a ha) b hb

theorem gives_bind {Q : β → Prop} {x : Result α} {f : α → Result β} (hf : ∀ a, Gives Q (f a)) :
    Gives Q (x >>= f) :=
  Gives.bind (P := fun _ => True) (fun _ _ => trivial) fun a _ => hf a

theorem gives_mapM {P : β → Prop} {f : α → Result β} (hf : ∀ a, Gives P (f a)) (as : List α) :
    Gives (fun bs => ∀ b ∈ bs, P b) (as.mapM f) := by
  induction as with
  | nil => exact gives_ok fun _ => nofun
  | cons a as ih =>
    rw [List.mapM_cons]
    exact (hf a).bind fun b hb => ih.bind fun bs hbs => gives_ok (List.forall_mem_cons.2 ⟨hb, hbs⟩)

/-- Computations that come out alike do so with what the first of them gives. -/
theorem Agree.and_gives {R : α → β → Prop} {P : α → Prop} {x : Result α} {y : Result β} (h : Agree R x y)
    (hx : Gives P x) : Agree (fun a b => R a b ∧ P a) x y := by
  cases h with
  | ok h => exact .ok ⟨h, hx _ rfl⟩
  | error h => exact .error h

/-! ## The faults of a computation -/

/-- Every fault that `x` fails with is as `P` says. -/
def FailsIn (P : Fault → Prop) (x : Result α) : Prop := ∀ f, x = .error f → P f

variable {P Q : Fault → Prop}

theorem failsIn_ok (a : α) : FailsIn P (.ok a) := fun _ => nofun

theorem failsIn_error {f : Fault} (h : P f) : FailsIn P (.error f : Result α) := by
  rintro _ ⟨⟩
  exact h

theorem failsIn_fail {cause : Cause} (h : P { cause := cause }) : FailsIn P (fail cause : Result α) :=
  failsIn_error h

/-- A check that refuses what is above a limit fails with its own cause. -/
theorem failsIn_refuse {limit n : Nat} {cause : Cause} (h : P { cause := cause }) :
    FailsIn P (if limit < n then fail cause else .ok () : Result Unit) := by
  split
  · exact failsIn_fail h
  · exact failsIn_ok ()

theorem FailsIn.mono {x : Result α} (h : FailsIn P x) (hPQ : ∀ f, P f → Q f) : FailsIn Q x :=
  fun f hf => hPQ f (h f hf)

/-- A computation of two steps fails as one of them does. -/
theorem FailsIn.bind {x : Result α} {f : α → Result β} (h : FailsIn P x)
    (hf : ∀ a, x = .ok a → FailsIn P (f a)) : FailsIn P (x >>= f) := by
  rcases x with e | a
  · rintro _ ⟨⟩
    exact h e rfl
  · exact hf a rfl

theorem failsIn_mapM {f : α → Result β} {as : List α} (h : ∀ a ∈ as, FailsIn P (f a)) :
    FailsIn P (as.mapM f) := by
  induction as with
  | nil => exact failsIn_ok []
  | cons a as ih =>
    rw [List.mapM_cons]
    refine (h a (List.mem_cons_self ..)).bind fun b _ => ?_
    exact (ih fun a ha => h a (List.mem_cons_of_mem _ ha)).bind fun bs _ => failsIn_ok _

end SchemaHints.Result
