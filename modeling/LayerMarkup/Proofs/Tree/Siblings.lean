import LayerMarkup.Proofs.Tree.Keys

/-!
# Siblings in a forest

The nodes of a forest fall into lists of siblings: the roots, and the children of each node.  The
paths from above to two nodes run together for a while and then part, in one list of siblings
(`PartsAt.unique`).
-/

namespace LayerMarkup.Tree

variable {α κ : Type} {key : α → κ}

/-- The lists of siblings of a forest: its roots, and the children of each of its nodes. -/
def childLists (forest : List (Tree α)) : List (List (Tree α)) :=
  forest :: (forestSubtrees forest).map children

theorem mem_childLists {siblings forest : List (Tree α)} :
    siblings ∈ childLists forest ↔
      siblings = forest ∨ ∃ v cs, node v cs ∈ forest ∧ siblings ∈ childLists cs := by
  have hbelow : siblings ∈ (forestSubtrees forest).map children ↔
      ∃ v cs, node v cs ∈ forest ∧ siblings ∈ childLists cs := by
    rw [forestSubtrees_eq_flatMap, List.map_flatMap, List.mem_flatMap]
    constructor
    · rintro ⟨⟨v, cs⟩, hmem, hsiblings⟩
      exact ⟨v, cs, hmem, by simpa [subtrees, childLists] using hsiblings⟩
    · rintro ⟨v, cs, hmem, hsiblings⟩
      exact ⟨node v cs, hmem, by simpa [subtrees, childLists] using hsiblings⟩
  rw [childLists, List.mem_cons, hbelow]

theorem self_mem_childLists (forest : List (Tree α)) : forest ∈ childLists forest :=
  List.mem_cons_self

theorem mem_childLists_of_node {v : α} {cs siblings forest : List (Tree α)}
    (hmem : node v cs ∈ forest) (hsiblings : siblings ∈ childLists cs) :
    siblings ∈ childLists forest :=
  mem_childLists.mpr (.inr ⟨v, cs, hmem, hsiblings⟩)

theorem keys_subset_of_mem_childLists {siblings forest : List (Tree α)}
    (hsiblings : siblings ∈ childLists forest) :
    forestKeys key siblings ⊆ forestKeys key forest := by
  induction forest using forest_induction with
  | step forest ih =>
    rcases mem_childLists.mp hsiblings with rfl | ⟨v, cs, hmem, hsiblings⟩
    · exact List.Subset.refl _
    · intro k hk
      refine keys_subset_forestKeys hmem ?_
      rw [keys_node]
      exact List.mem_cons_of_mem _ (ih _ hmem hsiblings hk)

/-- The paths of a forest to two keys part among the given siblings: they lead into different trees
of this list. -/
structure PartsAt (key : α → κ) (forest : List (Tree α)) (k l : κ) (siblings : List (Tree α))
    (s t : Tree α) : Prop where
  siblings_mem : siblings ∈ childLists forest
  left_mem : s ∈ siblings
  right_mem : t ∈ siblings
  ne : s ≠ t
  left_key : k ∈ s.keys key
  right_key : l ∈ t.keys key

namespace PartsAt

variable {forest siblings siblings' : List (Tree α)} {s t s' t' : Tree α} {k l : κ}

theorem of_node {v : α} {cs : List (Tree α)} (hmem : node v cs ∈ forest)
    (hparts : PartsAt key cs k l siblings s t) : PartsAt key forest k l siblings s t :=
  { hparts with siblings_mem := mem_childLists_of_node hmem hparts.siblings_mem }

/-- Both keys are found among the keys of the siblings. -/
theorem keys_mem (hparts : PartsAt key forest k l siblings s t) :
    k ∈ forestKeys key forest ∧ l ∈ forestKeys key forest := by
  have hsubset : forestKeys key siblings ⊆ forestKeys key forest :=
    keys_subset_of_mem_childLists hparts.siblings_mem
  exact ⟨hsubset (keys_subset_forestKeys hparts.left_mem hparts.left_key),
    hsubset (keys_subset_forestKeys hparts.right_mem hparts.right_key)⟩

/-- Paths that part among the roots do not run on together into one of the trees. -/
theorem not_roots_of_inner (hdistinct : (forestKeys key forest).Nodup) {v : α} {cs : List (Tree α)}
    (hmem : node v cs ∈ forest) (hinner : PartsAt key cs k l siblings' s' t')
    (hroots : PartsAt key forest k l forest s t) : False := by
  obtain ⟨hk, hl⟩ := hinner.keys_mem
  have hs : s = node v cs :=
    eq_of_mem_keys hdistinct hroots.left_mem hmem hroots.left_key (by simp [hk])
  have ht : t = node v cs :=
    eq_of_mem_keys hdistinct hroots.right_mem hmem hroots.right_key (by simp [hl])
  exact hroots.ne (hs.trans ht.symm)

/-- Where keys are distinct, the paths to two keys part in one place. -/
theorem unique (hdistinct : (forestKeys key forest).Nodup)
    (hparts : PartsAt key forest k l siblings s t)
    (hparts' : PartsAt key forest k l siblings' s' t') :
    siblings = siblings' ∧ s = s' ∧ t = t' := by
  induction forest using forest_induction with
  | step forest ih =>
    -- Two paths that part among the roots cannot part inside a tree as well.
    rcases mem_childLists.mp hparts.siblings_mem with rfl | ⟨v, cs, hmem, hinner⟩ <;>
      rcases mem_childLists.mp hparts'.siblings_mem with rfl | ⟨w, ds, hmem', hinner'⟩
    · refine ⟨rfl, ?_, ?_⟩
      · exact eq_of_mem_keys hdistinct hparts.left_mem hparts'.left_mem hparts.left_key
          hparts'.left_key
      · exact eq_of_mem_keys hdistinct hparts.right_mem hparts'.right_mem hparts.right_key
          hparts'.right_key
    · have hbelow : PartsAt key ds k l siblings' s' t' := { hparts' with siblings_mem := hinner' }
      exact (not_roots_of_inner hdistinct hmem' hbelow hparts).elim
    · have hbelow : PartsAt key cs k l siblings s t := { hparts with siblings_mem := hinner }
      exact (not_roots_of_inner hdistinct hmem hbelow hparts').elim
    · have hbelow : PartsAt key cs k l siblings s t := { hparts with siblings_mem := hinner }
      have hbelow' : PartsAt key ds k l siblings' s' t' := { hparts' with siblings_mem := hinner' }
      have hsame : node v cs = node w ds :=
        eq_of_mem_keys (k := k) hdistinct hmem hmem' (by simp [hbelow.keys_mem.1])
          (by simp [hbelow'.keys_mem.1])
      cases hsame
      exact ih _ hmem (nodup_children hdistinct hmem) hbelow hbelow'

end PartsAt

end LayerMarkup.Tree
