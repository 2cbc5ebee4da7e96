import LayerMarkup.Proofs.Tree.Steps

/-!
# Replacing a subtree

Two forests may differ in one subtree only, at any depth (`Replaced`).  What is read off a forest
tree by tree, and off a node by way of its children, is the same for both if it is the same for the
two subtrees (`Replaced.read_eq`).
-/

namespace LayerMarkup.Tree

variable {α β γ δ : Type} {old new : Tree α} {forest forest' : List (Tree α)}

/-- Where the first forest has the old subtree, the second one has the new subtree; else they are
the same. -/
inductive Replaced (old new : Tree α) : List (Tree α) → List (Tree α) → Prop
  | here (rest : List (Tree α)) : Replaced old new (old :: rest) (new :: rest)
  | inside (v : α) {cs cs' : List (Tree α)} (hbelow : Replaced old new cs cs') (rest : List (Tree α)) :
      Replaced old new (node v cs :: rest) (node v cs' :: rest)
  | after (t : Tree α) {ts ts' : List (Tree α)} (hlater : Replaced old new ts ts') :
      Replaced old new (t :: ts) (t :: ts')

namespace Replaced

theorem ne_nil (hreplaced : Replaced old new forest forest') : forest ≠ [] := by
  cases hreplaced <;> exact List.cons_ne_nil _ _

theorem symm (hreplaced : Replaced old new forest forest') : Replaced new old forest' forest := by
  induction hreplaced with
  | here rest => exact .here rest
  | inside v _ rest ih => exact .inside v ih rest
  | after t _ ih => exact .after t ih

/-- A reading of forests that goes tree by tree, with a reading of trees that sees the children of a
node as the reading of forests does. -/
structure Reading (tree : Tree α → γ) (forest : List (Tree α) → δ) : Prop where
  cons : ∀ {t t' : Tree α} {ts ts' : List (Tree α)},
    tree t = tree t' → forest ts = forest ts' → forest (t :: ts) = forest (t' :: ts')
  node : ∀ (v : α) {cs cs' : List (Tree α)},
    forest cs = forest cs' → tree (node v cs) = tree (Tree.node v cs')

/-- Where the replaced subtrees read the same, so do the forests. -/
theorem read_eq {readTree : Tree α → γ} {readForest : List (Tree α) → δ}
    (hreading : Reading readTree readForest) (hsame : readTree old = readTree new)
    (hreplaced : Replaced old new forest forest') : readForest forest = readForest forest' := by
  induction hreplaced with
  | here rest => exact hreading.cons hsame rfl
  | inside v _ rest ih => exact hreading.cons (hreading.node v ih) rfl
  | after t _ ih => exact hreading.cons rfl ih

/-- Mapping by subtrees keeps the replacement where it is, if the nodes around it map to the
same. -/
theorem mapSubtreesForest {g : Tree α → β}
    (haround : ∀ (v : α) {cs cs' : List (Tree α)},
      Replaced old new cs cs' → g (node v cs) = g (node v cs'))
    (hreplaced : Replaced old new forest forest') :
    Replaced (old.mapSubtrees g) (new.mapSubtrees g)
      (Tree.mapSubtreesForest g forest) (Tree.mapSubtreesForest g forest') := by
  induction hreplaced with
  | here rest => exact .here _
  | inside v hbelow rest ih =>
    rw [Tree.mapSubtreesForest, Tree.mapSubtreesForest, mapSubtrees, mapSubtrees, haround v hbelow]
    exact .inside _ ih _
  | after t _ ih => exact .after _ ih

end Replaced

end LayerMarkup.Tree
