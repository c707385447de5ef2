/-
Traces. A computation that narrates what it does is its result together with its acts on a logger:
lines and changes of nesting, in order. The logger is not part of the computation; it replays the
acts afterwards, so it can neither change a result nor be left out of step by a failure.
-/
import SchemaHints.Fault

namespace SchemaHints

/-- What a computation does to a logger. -/
inductive Act
  | line (text : String)
  | indent
  | outdent
  deriving DecidableEq

/-! ## Loggers -/

/-- Where the lines of a logger go. -/
inductive Sink
  | recorder
  | muted
  deriving DecidableEq

/-- A logger: a sink, or none at all, the nesting depth, and the lines recorded so far. -/
structure Logger where
  sink : Option Sink
  depth : Nat
  lines : List (Nat × String)
  deriving DecidableEq

namespace Logger

/-- A new logger with this sink. -/
def new (sink : Option Sink) : Logger := ⟨sink, 0, []⟩

/-- Whether lines are written anywhere. -/
def isEnabled (l : Logger) : Bool := l.sink.isSome

/-- Performs one act; nesting is counted whether or not lines are written. -/
def perform (l : Logger) : Act → Logger
  | .line text =>
    if l.sink = some .recorder then { l with lines := l.lines ++ [(l.depth, text)] } else l
  | .indent => { l with depth := l.depth + 1 }
  | .outdent => { l with depth := l.depth - 1 }

/-- Performs acts in order. -/
def replay (l : Logger) (acts : List Act) : Logger := acts.foldl perform l

/-- The lines recorded, and the logger without them. -/
def take (l : Logger) : List (Nat × String) × Logger := (l.lines, { l with lines := [] })

/-- The state of a logger in words. -/
def text (l : Logger) : String :=
  "Logger \x7b enabled: " ++ toString l.isEnabled ++ ", depth: " ++ toString l.depth ++ " \x7d"

end Logger

/-! ## Traced computations -/

/-- A result together with the acts on the way to it. -/
structure Traced (α : Type) where
  acts : List Act
  result : Result α

namespace Traced

variable {α β : Type}

/-- Continues with the result of `x`, unless `x` failed. -/
def andThen (x : Traced α) (f : α → Traced β) : Traced β :=
  match x.result with
  | .ok a => ⟨x.acts ++ (f a).acts, (f a).result⟩
  | .error e => ⟨x.acts, .error e⟩

instance : Monad Traced where
  pure a := ⟨[], .ok a⟩
  bind := andThen

/-- A computation without acts. -/
def lift (r : Result α) : Traced α := ⟨[], r⟩

instance : MonadLift (Except Fault) Traced := ⟨lift⟩

/-- Does one act. -/
def act (a : Act) : Traced Unit := ⟨[a], .ok ()⟩

/-- Writes one line. -/
def line (text : String) : Traced Unit := ⟨[.line text], .ok ()⟩

/-- Writes lines. -/
def lines (texts : List String) : Traced Unit := ⟨texts.map .line, .ok ()⟩

/-- A computation whose lines are nested one level deeper, however it ends. -/
def nested (x : Traced α) : Traced α := ⟨.indent :: x.acts ++ [.outdent], x.result⟩

@[simp] theorem result_pure (a : α) : (pure a : Traced α).result = .ok a := rfl

@[simp] theorem result_bind (x : Traced α) (f : α → Traced β) :
    (x >>= f).result = x.result >>= fun a => (f a).result := by
  show (andThen x f).result = _
  unfold andThen
  cases x.result <;> rfl

@[simp] theorem result_lift (r : Result α) : (lift r).result = r := rfl

@[simp] theorem result_act (a : Act) : (act a).result = .ok () := rfl

@[simp] theorem result_line (text : String) : (line text).result = .ok () := rfl

@[simp] theorem result_lines (texts : List String) : (lines texts).result = .ok () := rfl

@[simp] theorem result_nested (x : Traced α) : (nested x).result = x.result := rfl

end Traced

/-- The result of a computation, and the logger after it. -/
def Logger.run {α : Type} (l : Logger) (x : Traced α) : Result α × Logger := (x.result, l.replay x.acts)

end SchemaHints
