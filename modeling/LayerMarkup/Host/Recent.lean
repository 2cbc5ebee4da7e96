import LayerMarkup.Host.Basic

/-!
# Remembered defaults

Many occurrences share a component, so its defaults are asked for once and remembered.  At most a
given number of answers is kept; when there is no room, the answer whose last use is longest ago is
forgotten.  A failure is not remembered.

The answers are kept in a store (`AnswerStore`), of which a host needs no more than to look answers
up and to put them in (`Host.storing`).  The store that is told of here holds them in the order of
their last use (`Recent`), and a host that remembers its defaults uses that one
(`Host.remembering`).
-/

namespace LayerMarkup

/-- Answers by component, the most recently used first. -/
abbrev Recent := List (String × Mapping Json)

namespace Recent

/-- The answer of a component that is remembered. -/
def find? (id : String) : Recent → Option (Mapping Json)
  | [] => none
  | (k, answer) :: rest => if k = id then some answer else find? id rest

/-- The answers of all other components. -/
def without (id : String) (recent : Recent) : Recent := recent.filter (·.1 != id)

/-- Remembers an answer as the most recent one and keeps the given number of answers. -/
def remember (capacity : Nat) (id : String) (answer : Mapping Json) (recent : Recent) : Recent :=
  ((id, answer) :: without id recent).take capacity

end Recent

/-- A store of answers by component. -/
structure AnswerStore (τ : Type) where
  /-- The store in which nothing is kept. -/
  empty : τ
  /-- The answer of a component, if it is kept, and the store after this use of it. -/
  lookUp : String → τ → Option (Mapping Json) × τ
  /-- Puts in the answer of a component, which may fail. -/
  keep : String → Mapping Json → τ → Except Failure τ

/-- The store that holds the most recently used answers, as many as there is room for. -/
def Recent.store (capacity : Int) : AnswerStore Recent where
  empty := []
  lookUp id recent :=
    match recent.find? id with
    | some known => (some known, recent.remember capacity.toNat id known)
    | none => (none, recent)
  keep id answer recent :=
    if capacity ≤ 0 then .error .entryTooLarge else .ok (recent.remember capacity.toNat id answer)

/-- The state of a host with the answers remembered from it. -/
structure Remembering (σ : Type) where
  host : σ
  recent : Recent := []

namespace Host

variable {σ τ : Type}

/-- The host with its defaults kept in a store. -/
def storing (store : AnswerStore τ) (host : Host σ) : Host (σ × τ) where
  mainComponent id := fun s =>
    let (answer, h) := host.mainComponent id s.1
    (answer, h, s.2)
  defaults id := fun s =>
    match store.lookUp id s.2 with
    | (some known, kept) => (.ok known, s.1, kept)
    | (none, kept) =>
      let (answer, h) := host.defaults id s.1
      match answer with
      | .error e => (.error e, h, kept)
      | .ok defaults =>
        match store.keep id defaults kept with
        | .error e => (.error e, h, kept)
        | .ok kept => (.ok defaults, h, kept)

/-- The host with its most recently used defaults remembered.  With room for nothing, keeping an
answer fails. -/
def remembering (capacity : Int) (host : Host σ) : Host (Remembering σ) where
  mainComponent id := fun s =>
    let (answer, h, recent) :=
      (host.storing (Recent.store capacity)).mainComponent id (s.host, s.recent)
    (answer, { host := h, recent })
  defaults id := fun s =>
    let (answer, h, recent) := (host.storing (Recent.store capacity)).defaults id (s.host, s.recent)
    (answer, { host := h, recent })

end Host

/-- Runs a task on the host with its defaults remembered while the task runs, and no longer. -/
def Task.withMemory {σ α : Type} (task : Task (Remembering σ) α) : Task σ α :=
  task.within (fun host => { host }) Remembering.host

/-- Runs a task on the host with its defaults kept in a store, which is empty at first and left
behind. -/
def Task.withStore {σ τ α : Type} (store : AnswerStore τ) (task : Task (σ × τ) α) : Task σ α :=
  task.within (fun host => (host, store.empty)) Prod.fst

def Attempt.withMemory {σ α : Type} (attempt : Attempt (Remembering σ) α) : Attempt σ α :=
  ExceptT.mk (Task.withMemory attempt.run)

end LayerMarkup
