/-
Nesting in traces. Acts are balanced when they close every level that they open, and no other. In the middle
of a computation more levels may be open than its own acts have opened, so the notion to work with is that
of acts that close a number of levels besides: acts one after another close the sum of what each closes.

On a logger that is nested deeply enough, such acts leave the depth that many levels lower, and they write
the same lines whatever the depth, each raised by it. Since the outermost level cannot be left, this is so
only while the acts close no more levels than are open.
-/
import SchemaHints.Trace

namespace SchemaHints

/-! ## Acts that close levels -/

/-- Acts that close all levels which they open, and `k` levels that were open before. -/
inductive Closes : Nat → List Act → Prop
  | nil : Closes 0 []
  | line {k : Nat} {acts : List Act} (text : String) : Closes k acts → Closes k (.line text :: acts)
  | indent {k : Nat} {acts : List Act} : Closes (k + 1) acts → Closes k (.indent :: acts)
  | outdent {k : Nat} {acts : List Act} : Closes k acts → Closes (k + 1) (.outdent :: acts)

namespace Closes

theorem append {j k : Nat} {as bs : List Act} (ha : Closes j as) (hb : Closes k bs) :
    Closes (k + j) (as ++ bs) := by
  induction ha with
  | nil => exact hb
  | line text _ ih => exact ih.line text
  | indent _ ih => exact ih.indent
  | outdent _ ih => exact ih.outdent

theorem lines (texts : List String) : Closes 0 (texts.map .line) := by
  induction texts with
  | nil => exact .nil
  | cons text texts ih => exact ih.line text

end Closes

/-! ## What a logger makes of acts -/

/-- The lines that acts write from a depth on, each at its own depth. -/
def written (depth : Nat) : List Act → List (Nat × String)
  | [] => []
  | .line text :: acts => (depth, text) :: written depth acts
  | .indent :: acts => written (depth + 1) acts
  | .outdent :: acts => written (depth - 1) acts

/-- Lines at depths that are all greater by `d`. -/
def raised (d : Nat) (lines : List (Nat × String)) : List (Nat × String) := lines.map fun line => (d + line.1, line.2)

theorem written_raised {k : Nat} {acts : List Act} (h : Closes k acts) {e : Nat} (hk : k ≤ e) (d : Nat) :
    written (d + e) acts = raised d (written e acts) := by
  induction h generalizing e with
  | nil => rfl
  | line text _ ih =>
    show (d + e, text) :: written (d + e) _ = (d + e, text) :: raised d (written e _)
    rw [ih hk]
  | indent _ ih =>
    show written (d + e + 1) _ = raised d (written (e + 1) _)
    rw [Nat.add_assoc, ih (by omega)]
  -- the level that is left is one of the `e`, so lowering the depth and raising it commute
  | outdent _ ih =>
    show written (d + e - 1) _ = raised d (written (e - 1) _)
    rw [Nat.add_sub_assoc (by omega), ih (by omega)]

namespace Logger

theorem replay_append (l : Logger) (as bs : List Act) : l.replay (as ++ bs) = (l.replay as).replay bs :=
  List.foldl_append ..

theorem sink_perform (l : Logger) (a : Act) : (l.perform a).sink = l.sink := by
  unfold perform
  split
  · split <;> rfl
  · rfl
  · rfl

theorem sink_replay (l : Logger) (acts : List Act) : (l.replay acts).sink = l.sink := by
  induction acts generalizing l with
  | nil => rfl
  | cons a acts ih => exact (ih (l.perform a)).trans (l.sink_perform a)

theorem depth_perform_line (l : Logger) (text : String) : (l.perform (.line text)).depth = l.depth := by
  unfold perform
  simp only
  split <;> rfl

/-- Acts that close `k` levels leave a logger that many levels lower. -/
theorem depth_replay {k : Nat} {acts : List Act} (h : Closes k acts) (l : Logger) (hk : k ≤ l.depth) :
    (l.replay acts).depth = l.depth - k := by
  induction h generalizing l with
  | nil => rfl
  | line text _ ih =>
    have hdepth := l.depth_perform_line text
    show ((l.perform (.line text)).replay _).depth = _
    rw [ih _ (by omega), hdepth]
  | indent _ ih =>
    have hdepth : (l.perform .indent).depth = l.depth + 1 := rfl
    show ((l.perform .indent).replay _).depth = _
    rw [ih _ (by omega), hdepth]
    omega
  | outdent _ ih =>
    have hdepth : (l.perform .outdent).depth = l.depth - 1 := rfl
    show ((l.perform .outdent).replay _).depth = _
    rw [ih _ (by omega), hdepth]
    omega

/-- A recorder records what is written from its depth on, and any other logger records nothing. -/
theorem lines_replay (l : Logger) (acts : List Act) :
    (l.replay acts).lines = l.lines ++ if l.sink = some .recorder then written l.depth acts else [] := by
  induction acts generalizing l with
  | nil =>
    show l.lines = _
    simp [written]
  | cons a acts ih =>
    show ((l.perform a).replay acts).lines = _
    rw [ih, l.sink_perform]
    cases a with
    | line text =>
      rw [l.depth_perform_line]
      by_cases hs : l.sink = some .recorder
      · simp [perform, hs, written]
      · simp [perform, hs]
    | indent => rfl
    | outdent => rfl

end Logger

/-! ## Computations whose acts are balanced -/

namespace Traced

variable {α β : Type}

/-- All levels that the computation opens are closed in the end, and no others, however it ends. -/
def Balanced (x : Traced α) : Prop := Closes 0 x.acts

theorem balanced_pure (a : α) : Balanced (pure a) := .nil

theorem balanced_lift (r : Result α) : (lift r).Balanced := .nil

theorem balanced_line (text : String) : (line text).Balanced := .line text .nil

theorem balanced_lines (texts : List String) : (lines texts).Balanced := .lines texts

theorem Balanced.nested {x : Traced α} (h : x.Balanced) : (nested x).Balanced :=
  (Closes.append h (.outdent .nil)).indent

theorem acts_bind_ok {x : Traced α} {a : α} (h : x.result = .ok a) (f : α → Traced β) :
    (x >>= f).acts = x.acts ++ (f a).acts := by
  show (andThen x f).acts = _
  rw [andThen, h]

theorem acts_bind_error {x : Traced α} {e : Fault} (h : x.result = .error e) (f : α → Traced β) :
    (x >>= f).acts = x.acts := by
  show (andThen x f).acts = _
  rw [andThen, h]

/-- What follows a computation may be left out by a failure, so it must be balanced by itself. -/
theorem closes_bind {k : Nat} {x : Traced α} {f : α → Traced β} (hx : Closes k x.acts)
    (hf : ∀ a, x.result = .ok a → (f a).Balanced) : Closes k (x >>= f).acts := by
  rcases hr : x.result with e | a
  · rw [acts_bind_error hr]
    exact hx
  · rw [acts_bind_ok hr, ← Nat.zero_add k]
    exact hx.append (hf a hr)

theorem Balanced.bind {x : Traced α} {f : α → Traced β} (hx : x.Balanced)
    (hf : ∀ a, x.result = .ok a → (f a).Balanced) : (x >>= f).Balanced := closes_bind hx hf

end Traced

/-! ## Writing as it goes -/

namespace Logger

variable {α β : Type}

/-- It makes no difference that a logger replays the acts of a computation afterwards: each step runs on the
logger that the steps before it leave, and a step that fails is the last. -/
theorem run_bind (l : Logger) (x : Traced α) (f : α → Traced β) :
    l.run (x >>= f) = match l.run x with
      | (.ok a, l') => l'.run (f a)
      | (.error e, l') => (.error e, l') := by
  unfold run
  rw [Traced.result_bind]
  rcases hr : x.result with e | a
  · rw [Traced.acts_bind_error hr]
    rfl
  · rw [Traced.acts_bind_ok hr, replay_append]
    rfl

/-- A nested computation runs one level deeper, and the level is left whether or not it fails. -/
theorem run_nested (l : Logger) (x : Traced α) :
    l.run (Traced.nested x) =
    (((l.perform .indent).run x).1, ((l.perform .indent).run x).2.perform .outdent) := by
  show (x.result, l.replay (.indent :: x.acts ++ [.outdent])) = _
  rw [replay_append]
  rfl

end Logger

/-! ## Transparent logging -/

/-- Running on a logger shows nothing of it: not in the result, and not in the lines but by the depth, which
is raised by that of the logger; and the logger is left as it was but for these lines. -/
structure Transparent {α : Type} (run : Logger → Result α × Logger) : Prop where
  result : ∀ l l', (run l).1 = (run l').1
  sink : ∀ l, (run l).2.sink = l.sink
  depth : ∀ l, (run l).2.depth = l.depth
  lines : ∀ l, (run l).2.lines = l.lines ++ raised l.depth (run (.new l.sink)).2.lines

theorem Traced.Balanced.transparent {α : Type} {x : Traced α} (h : x.Balanced) : Transparent fun l => l.run x where
  result := fun _ _ => rfl
  sink := fun l => l.sink_replay x.acts
  depth := fun l => Logger.depth_replay h l (Nat.zero_le _)
  lines := by
    intro l
    have hnew : ((Logger.new l.sink).replay x.acts).lines =
        if l.sink = some .recorder then written 0 x.acts else [] := by
      rw [Logger.lines_replay]
      rfl
    have hwritten : written l.depth x.acts = raised l.depth (written 0 x.acts) := by
      have hraised := written_raised h (Nat.le_refl 0) l.depth
      rwa [Nat.add_zero] at hraised
    show (l.replay x.acts).lines = l.lines ++ raised l.depth ((Logger.new l.sink).replay x.acts).lines
    rw [Logger.lines_replay, hnew]
    split
    · rw [hwritten]
    · rfl

end SchemaHints
