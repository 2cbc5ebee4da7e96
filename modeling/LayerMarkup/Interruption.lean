import LayerMarkup.Host.Basic
import LayerMarkup.Schedule

/-!
# Interrupted work on a forest

The work on a node may fail instead of being finished.  The node around it takes notice two rounds
later, calls off what is still to be done inside and fails in turn, so a failure travels outwards
while nodes elsewhere are still being finished.  Whether a node still comes to its turn is told from
the failures so far (`Record.hasTurn`), and the steps are taken in their order by that
(`takeSteps`).  The first failure to arrive at the top is the failure of the whole work
(`workThrough`).
-/

namespace LayerMarkup.Interruption

/-- A failure on its way outwards: when it happens to a node, and its cause. -/
structure Setback where
  turn : Turn
  cause : Failure

namespace Setback

/-- What the node around takes notice of. -/
def noticed (s : Setback) : Setback := { s with turn := s.turn.later 2 }

def first (a b : Setback) : Setback := if b.turn.before a.turn then b else a

end Setback

variable {σ α β : Type}

mutual

/-- What happens to the node of a tree, if it does not come to its end: a failure inside, or one of
its own.  `failed` gives the causes by the numbers of the nodes that failed by themselves. -/
def failureOf (failed : Nat → Option Failure) (depth index : Nat) : Tree α → Option Setback
  | .node v children =>
    match firstFailureOf failed (depth + 1) (index + 1) children with
    | some inside => some inside.noticed
    | none =>
      (failed index).map fun cause => { turn := (Tree.node v children).turn depth index, cause }

/-- The first failure in a forest. -/
def firstFailureOf (failed : Nat → Option Failure) (depth index : Nat) : List (Tree α) → Option Setback
  | [] => none
  | t :: ts =>
    (failureOf failed depth index t).merge Setback.first
      (firstFailureOf failed depth (index + t.size) ts)

end

/-- When the nodes inside a node are called off, if the node itself is called off at `called` and
takes notice of a failure inside at `notice`.  A node with a failure on the way to it does not hand
the call on, but calls off what it holds when it takes notice. -/
def calledInside (called : Turn) : Option Turn → Turn
  | none => called
  | some notice => if (called.later 1).before notice then called else notice

mutual

/-- The steps of a tree that have their turns in time: before the tree is called off and not after
the round that ends all work. -/
def stepsInTime (failed : Nat → Option Failure) (lastRound : Nat) (called : Turn) (depth index : Nat) :
    Tree α → List (Step α)
  | .node v children =>
    let t : Tree α := .node v children
    let notice := (firstFailureOf failed (depth + 1) (index + 1) children).map (·.noticed.turn)
    let below :=
      forestStepsInTime failed lastRound (calledInside called notice) (depth + 1) (index + 1) children
    let turn := t.turn depth index
    -- A node around a failure never comes to its own turn.
    if notice.isNone && turn.before called && turn.round ≤ lastRound then { turn, tree := t } :: below
    else below

def forestStepsInTime (failed : Nat → Option Failure) (lastRound : Nat) (called : Turn)
    (depth index : Nat) : List (Tree α) → List (Step α)
  | [] => []
  | t :: ts =>
    stepsInTime failed lastRound called depth index t ++
      forestStepsInTime failed lastRound called depth (index + t.size) ts

end

/-- The steps of a forest up to its first failure.  Work ends one round after the failure is noticed
by all; without a failure every step is taken. -/
def stepsUntilFailure (failed : Nat → Option Failure) (roots : List (Tree α)) : List (Step α) :=
  match firstFailureOf failed 0 0 roots with
  | none => Tree.forestSteps 0 0 roots
  | some failure =>
    let called := failure.noticed.turn
    forestStepsInTime failed (called.round + 1) called 0 0 roots

/-- What came of the steps that were taken, by the numbers of the nodes, the last one first. -/
structure Record (β : Type) where
  results : List (Nat × β) := []
  failures : List (Nat × Failure) := []

namespace Record

/-- The cause with which a node failed by itself. -/
def failed (record : Record β) (index : Nat) : Option Failure := record.failures.lookup index

/-- A node still comes to its turn. -/
def hasTurn (record : Record β) (roots : List (Tree α)) (step : Step α) : Bool :=
  record.failures.isEmpty ||
    (stepsUntilFailure record.failed roots).any (·.turn.index == step.turn.index)

def addResult (record : Record β) (index : Nat) (result : β) : Record β :=
  { record with results := (index, result) :: record.results }

def addFailure (record : Record β) (index : Nat) (cause : Failure) : Record β :=
  { record with failures := (index, cause) :: record.failures }

end Record

/-- Takes a step, unless it was called off. -/
def takeStep (work : Step α → Attempt σ β) (roots : List (Tree α)) (record : Record β) (step : Step α) :
    Task σ (Record β) := do
  if record.hasTurn roots step then
    match ← (work step).run with
    | .ok result => return record.addResult step.turn.index result
    | .error cause => return record.addFailure step.turn.index cause
  else return record

/-- Takes steps in their order. -/
def takeSteps (work : Step α → Attempt σ β) (roots : List (Tree α)) (record : Record β)
    (steps : List (Step α)) : Task σ (Record β) :=
  steps.foldlM (takeStep work roots) record

/-- The results of the work on all nodes of a forest, by the numbers of the nodes. -/
def workThrough (work : Step α → Attempt σ β) (roots : List (Tree α)) :
    Attempt σ (List (Nat × β)) := ExceptT.mk do
  let record ← takeSteps work roots {} (Step.inOrder (Tree.forestSteps 0 0 roots))
  match firstFailureOf record.failed 0 0 roots with
  | some setback => return .error setback.cause
  | none => return .ok record.results.reverse

end LayerMarkup.Interruption
