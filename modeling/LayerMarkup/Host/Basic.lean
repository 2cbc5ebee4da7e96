import LayerMarkup.Event
import LayerMarkup.Mapping

/-!
# Hosts

A host answers two questions about a design: which component an occurrence was made from, and which
defaults a component declares.  It may fail, and its answers may depend on a state of its own, which
each question may change.  A task is a computation that asks a host and reports what it does.  An
attempt is a task that may fail; what a host fails with is a failure of the attempt that asked,
unless it is absorbed.
-/

namespace LayerMarkup

/-- The component that an occurrence was made from. -/
structure ComponentRef where
  id : String
  name : String := ""

/-- A source of answers with a state of its own. -/
structure Host (σ : Type) where
  mainComponent : String → StateM σ (Except Failure (Option ComponentRef))
  defaults : String → StateM σ (Except Failure (Mapping Json))

/-- The host's state and the reports so far, newest first. -/
structure Progress (σ : Type) where
  host : σ
  events : List Event := []

/-- A computation that asks a host and makes reports. -/
abbrev Task (σ : Type) := StateM (Progress σ)

namespace Task

variable {σ τ α β : Type}

/-- Asks the host. -/
def ask (question : StateM σ α) : Task σ α := fun p =>
  let (answer, host) := question p.host
  (answer, { p with host })

/-- Reports an event. -/
def report (event : Event) : Task σ Unit := fun p => ((), { p with events := event :: p.events })

/-- Runs a task from a host state without earlier reports: the result, the state after it and the
reports in order. -/
def run (task : Task σ α) (host : σ) : α × σ × List Event :=
  let (a, p) := task { host }
  (a, p.host, p.events.reverse)

/-- Runs a task on a host whose state is built around another one, kept only while it runs. -/
def within (enter : σ → τ) (leave : τ → σ) (task : Task τ α) : Task σ α := fun p =>
  let (a, q) := task { host := enter p.host, events := p.events }
  (a, { host := leave q.host, events := q.events })

theorem bind_apply (task : Task σ α) (next : α → Task σ β) (p : Progress σ) :
    (task >>= next) p = next (task p).1 (task p).2 := rfl

theorem mapM_cons_apply (f : α → Task σ β) (a : α) (l : List α) (p : Progress σ) :
    (a :: l).mapM f p = ((f a p).1 :: (l.mapM f (f a p).2).1, (l.mapM f (f a p).2).2) := by
  rw [List.mapM_cons]
  rfl

end Task

/-- A task that may fail. -/
abbrev Attempt (σ : Type) := ExceptT Failure (Task σ)

namespace Attempt

variable {σ α : Type}

/-- Asks the host; its failure is that of the attempt. -/
def ask (question : StateM σ (Except Failure α)) : Attempt σ α := ExceptT.mk (Task.ask question)

/-- Reports an event. -/
def report (event : Event) : Attempt σ Unit := ExceptT.lift (Task.report event)

/-- Reports a failure of an attempt and goes on without its result. -/
def absorb (event : Failure → Event) (attempt : Attempt σ α) : Attempt σ (Option α) := ExceptT.mk do
  match ← attempt.run with
  | .ok result => return .ok (some result)
  | .error cause =>
    Task.report (event cause)
    return .ok none

end Attempt

/-- A question put to a host. -/
inductive Lookup where
  | mainComponent (id : String)
  | defaults (id : String)
deriving DecidableEq

namespace Host

variable {σ : Type}

/-- The host that also keeps the questions put to it, newest first. -/
def recorded (host : Host σ) : Host (σ × List Lookup) where
  mainComponent id := fun (s, asked) =>
    let (answer, t) := host.mainComponent id s
    (answer, t, .mainComponent id :: asked)
  defaults id := fun (s, asked) =>
    let (answer, t) := host.defaults id s
    (answer, t, .defaults id :: asked)

/-- The host whose answers depend only on the id asked. -/
def ofAnswers (mainComponent : String → Except Failure (Option ComponentRef))
    (defaults : String → Except Failure (Mapping Json)) : Host Unit where
  mainComponent id := fun s => (mainComponent id, s)
  defaults id := fun s => (defaults id, s)

end Host

end LayerMarkup
