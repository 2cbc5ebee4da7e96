/-!
# Trees and forests

Design layers, classified elements and markup tags are all arranged as trees with ordered children,
so one tree type carries each of them in turn.  A forest is a list of trees.
-/

namespace LayerMarkup

/-- A value with its children in order. -/
inductive Tree (α : Type) where
  | node (value : α) (children : List (Tree α))

namespace Tree

variable {α β : Type}

instance [Inhabited α] : Inhabited (Tree α) := ⟨node default []⟩

def value : Tree α → α
  | node v _ => v

def children : Tree α → List (Tree α)
  | node _ cs => cs

mutual

/-- The number of nodes of a tree. -/
def size : Tree α → Nat
  | node _ cs => forestSize cs + 1

/-- The number of nodes of a forest. -/
def forestSize : List (Tree α) → Nat
  | [] => 0
  | t :: ts => t.size + forestSize ts

end

mutual

/-- The number of levels below the node of a tree. -/
def height : Tree α → Nat
  | node _ cs => forestHeight cs

/-- The number of levels of a forest. -/
def forestHeight : List (Tree α) → Nat
  | [] => 0
  | t :: ts => max (t.height + 1) (forestHeight ts)

end

mutual

/-- The tree of the same shape with every value replaced. -/
def map (f : α → β) : Tree α → Tree β
  | node v cs => node (f v) (mapForest f cs)

def mapForest (f : α → β) : List (Tree α) → List (Tree β)
  | [] => []
  | t :: ts => t.map f :: mapForest f ts

end

mutual

/-- The tree of the same shape with every value replaced by what its number and the value give.  The
values are counted from the given number on, each before those of its children. -/
def mapIndexed (f : Nat → α → β) (index : Nat) : Tree α → Tree β
  | node v cs => node (f index v) (mapIndexedForest f (index + 1) cs)

def mapIndexedForest (f : Nat → α → β) (index : Nat) : List (Tree α) → List (Tree β)
  | [] => []
  | t :: ts => t.mapIndexed f index :: mapIndexedForest f (index + t.size) ts

end

mutual

/-- All subtrees, every tree before its children. -/
def subtrees : Tree α → List (Tree α)
  | node v cs => node v cs :: forestSubtrees cs

def forestSubtrees : List (Tree α) → List (Tree α)
  | [] => []
  | t :: ts => t.subtrees ++ forestSubtrees ts

end

mutual

/-- All values, every value before those of its children. -/
def values : Tree α → List α
  | node v cs => v :: forestValues cs

def forestValues : List (Tree α) → List α
  | [] => []
  | t :: ts => t.values ++ forestValues ts

end

theorem mapForest_eq_map (f : α → β) (forest : List (Tree α)) :
    mapForest f forest = forest.map (map f) := by
  induction forest with
  | nil => rfl
  | cons t ts ih => simp [mapForest, ih]

theorem forestSubtrees_eq_flatMap (forest : List (Tree α)) :
    forestSubtrees forest = forest.flatMap subtrees := by
  induction forest with
  | nil => rfl
  | cons t ts ih => simp [forestSubtrees, ih]

theorem forestValues_eq_flatMap (forest : List (Tree α)) :
    forestValues forest = forest.flatMap values := by
  induction forest with
  | nil => rfl
  | cons t ts ih => simp [forestValues, ih]

/-- Induction over a tree: a property that passes from the children of a node to the node holds of
every tree. -/
theorem induction {P : Tree α → Prop} (step : ∀ v cs, (∀ c ∈ cs, P c) → P (node v cs)) :
    ∀ t, P t :=
  Tree.rec (motive_1 := P) (motive_2 := fun cs => ∀ c ∈ cs, P c) (fun v cs ih => step v cs ih)
    (by simp) (fun _ _ h ih => by simp [h]; exact ih)

end Tree

end LayerMarkup
