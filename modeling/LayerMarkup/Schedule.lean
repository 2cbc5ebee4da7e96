import LayerMarkup.Tree

/-!
# The order of work on a forest

The nodes of a forest are worked on side by side, in rounds.  A node is begun one round after the
node around it.  It is finished in the same round if it has no children, and else two rounds after
the last of them.  Within a round, nodes are taken in the order of the forest.  This is the order
for hosts that answer at once: a host that kept a question waiting would hold up the nodes around
the one that asked, while the others go on, and so put the steps in another order.
`Tree.forestSteps` gives the nodes of a forest with the turns at which they are finished, and
`Step.inOrder` puts them in the order of their turns; no step is lost or added by that, as
`mem_inOrder` says.
-/

namespace LayerMarkup

/-- A moment of the work on a forest. -/
structure Turn where
  round : Nat
  /-- The number of a node, every node being counted before its children. -/
  index : Nat
deriving DecidableEq

namespace Turn

/-- Rounds are compared first, then nodes. -/
def before (a b : Turn) : Bool := a.round < b.round || (a.round == b.round && a.index < b.index)

def later (t : Turn) (rounds : Nat) : Turn := { t with round := t.round + rounds }

def first (a b : Turn) : Turn := if b.before a then b else a

end Turn

/-- The turn of a node with what is below it. -/
structure Step (α : Type) where
  turn : Turn
  tree : Tree α

namespace Tree

variable {α : Type}

/-- The turn at which the node of a tree is finished.  A level of nodes below it costs three rounds:
one until they are begun and two until it takes notice of their end. -/
def turn (depth index : Nat) (t : Tree α) : Turn := { round := depth + 3 * t.height, index }

mutual

/-- The steps of a tree, every node before its children. -/
def steps (depth index : Nat) : Tree α → List (Step α)
  | node v cs =>
    { turn := (node v cs).turn depth index, tree := node v cs } ::
      forestSteps (depth + 1) (index + 1) cs

def forestSteps (depth index : Nat) : List (Tree α) → List (Step α)
  | [] => []
  | t :: ts => t.steps depth index ++ forestSteps depth (index + t.size) ts

end

end Tree

namespace Step

variable {α : Type}

/-- The last round of some steps. -/
def lastRound (steps : List (Step α)) : Nat := steps.foldr (fun s round => max s.turn.round round) 0

/-- Steps in the order of their rounds.  Those of one round stay in the order in which they are
given. -/
def inOrder (steps : List (Step α)) : List (Step α) :=
  (List.range (lastRound steps + 1)).flatMap fun round => steps.filter (·.turn.round == round)

theorem lastRound_cons (s : Step α) (steps : List (Step α)) :
    lastRound (s :: steps) = max s.turn.round (lastRound steps) := rfl

theorem round_le_lastRound {steps : List (Step α)} {s : Step α} (h : s ∈ steps) :
    s.turn.round ≤ lastRound steps := by
  induction steps with
  | nil => cases h
  | cons t ts ih =>
    rw [lastRound_cons]
    rcases List.mem_cons.1 h with rfl | h
    · exact Nat.le_max_left ..
    · exact Nat.le_trans (ih h) (Nat.le_max_right ..)

theorem mem_inOrder {steps : List (Step α)} {s : Step α} : s ∈ inOrder steps ↔ s ∈ steps := by
  constructor
  · intro h
    obtain ⟨_, _, h⟩ := List.mem_flatMap.1 h
    exact (List.mem_filter.1 h).1
  · intro h
    have bound := round_le_lastRound h
    exact List.mem_flatMap.2
      ⟨s.turn.round, List.mem_range.2 (by omega), List.mem_filter.2 ⟨h, by simp⟩⟩

end Step

end LayerMarkup
