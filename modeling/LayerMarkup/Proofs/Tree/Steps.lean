import LayerMarkup.Schedule
import Mathlib.Data.List.Nodup

/-!
# Results of steps

The nodes of a forest are not worked on in the order of the forest, and results are brought back to
their nodes by the numbers of these.  No two nodes have one number (`nodup_index_forestSteps`), so
every node gets what its own step gave (`lookup_inOrder`), whatever the order of the steps was.

Where the step of a node gives what can be told from the subtree at the node, the results together
are the forest mapped subtree by subtree (`mapIndexedForest_eq_mapSubtreesForest`).
-/

namespace LayerMarkup

open scoped List

namespace Tree

variable {α β : Type}

mutual

/-- The tree of the same shape with every value replaced by what the subtree at it gives. -/
def mapSubtrees (g : Tree α → β) : Tree α → Tree β
  | node v cs => node (g (node v cs)) (mapSubtreesForest g cs)

def mapSubtreesForest (g : Tree α → β) : List (Tree α) → List (Tree β)
  | [] => []
  | t :: ts => t.mapSubtrees g :: mapSubtreesForest g ts

end

theorem value_mapSubtrees (g : Tree α → β) (t : Tree α) : (t.mapSubtrees g).value = g t := by
  cases t
  rfl

theorem mapSubtreesForest_eq_map (g : Tree α → β) (forest : List (Tree α)) :
    mapSubtreesForest g forest = forest.map (mapSubtrees g) := by
  induction forest with
  | nil => rfl
  | cons t ts ih => rw [mapSubtreesForest, ih, List.map_cons]

/-- The numbers of the nodes of a forest, if they follow one another in every tree of it. -/
theorem index_forestSteps_of_steps {forest : List (Tree α)}
    (htrees : ∀ t ∈ forest, ∀ depth index,
      (t.steps depth index).map (·.turn.index) = List.range' index t.size) (depth index : Nat) :
    (forestSteps depth index forest).map (·.turn.index) = List.range' index (forestSize forest) := by
  induction forest generalizing index with
  | nil => rfl
  | cons t ts ih =>
    rw [forestSteps, List.map_append, htrees t List.mem_cons_self, forestSize,
      ih fun s hs => htrees s (List.mem_cons_of_mem _ hs), List.range'_append_1]

theorem index_steps (t : Tree α) : ∀ depth index,
    (t.steps depth index).map (·.turn.index) = List.range' index t.size := by
  induction t using Tree.induction with
  | step v cs ih =>
    intro depth index
    rw [steps, List.map_cons, index_forestSteps_of_steps ih, size, List.range'_succ]
    rfl

theorem nodup_index_forestSteps (depth index : Nat) (forest : List (Tree α)) :
    ((forestSteps depth index forest).map (·.turn.index)).Nodup := by
  rw [index_forestSteps_of_steps fun t _ => index_steps t]
  exact List.nodup_range'

mutual

theorem map_tree_steps (depth index : Nat) :
    ∀ t : Tree α, (t.steps depth index).map Step.tree = t.subtrees
  | node v cs => by
    rw [steps, subtrees, List.map_cons, map_tree_forestSteps (depth + 1) (index + 1) cs]

/-- Every node has a step of its own. -/
theorem map_tree_forestSteps (depth index : Nat) : ∀ forest : List (Tree α),
    (forestSteps depth index forest).map Step.tree = forestSubtrees forest
  | [] => rfl
  | t :: ts => by
    rw [forestSteps, forestSubtrees, List.map_append, map_tree_steps depth index t,
      map_tree_forestSteps depth (index + t.size) ts]

end

mutual

theorem map_value_subtrees : ∀ t : Tree α, t.subtrees.map value = t.values
  | node v cs => by rw [subtrees, values, List.map_cons, map_value_forestSubtrees cs, value]

theorem map_value_forestSubtrees : ∀ forest : List (Tree α),
    (forestSubtrees forest).map value = forestValues forest
  | [] => rfl
  | t :: ts => by
    rw [forestSubtrees, forestValues, List.map_append, map_value_subtrees t,
      map_value_forestSubtrees ts]

end

theorem forestSteps_append (depth index : Nat) (forest others : List (Tree α)) :
    forestSteps depth index (forest ++ others) =
      forestSteps depth index forest ++ forestSteps depth (index + forestSize forest) others := by
  induction forest generalizing index with
  | nil => rfl
  | cons t ts ih =>
    rw [List.cons_append, forestSteps, forestSteps, ih, forestSize, List.append_assoc, Nat.add_assoc]

theorem mapIndexedForest_append (f : Nat → α → β) (index : Nat) (forest others : List (Tree α)) :
    mapIndexedForest f index (forest ++ others) =
      mapIndexedForest f index forest ++ mapIndexedForest f (index + forestSize forest) others := by
  induction forest generalizing index with
  | nil => rfl
  | cons t ts ih =>
    rw [List.cons_append, mapIndexedForest, mapIndexedForest, ih, forestSize, List.cons_append,
      Nat.add_assoc]

section Mapped

variable {f : Nat → α → β} {g : Tree α → β}

/-- Mapping by numbers is mapping by subtrees, if it is in every tree of the forest. -/
theorem mapIndexedForest_of_mapIndexed {forest : List (Tree α)} {depth index : Nat}
    (htrees : ∀ t ∈ forest, ∀ index,
      (∀ s ∈ t.steps depth index, f s.turn.index s.tree.value = g s.tree) →
        t.mapIndexed f index = t.mapSubtrees g)
    (hsteps : ∀ s ∈ forestSteps depth index forest, f s.turn.index s.tree.value = g s.tree) :
    mapIndexedForest f index forest = mapSubtreesForest g forest := by
  induction forest generalizing index with
  | nil => rfl
  | cons t ts ih =>
    rw [forestSteps] at hsteps
    rw [mapIndexedForest, mapSubtreesForest]
    congr 1
    · exact htrees t List.mem_cons_self index fun s hs => hsteps s (List.mem_append_left _ hs)
    · exact ih (fun s hs => htrees s (List.mem_cons_of_mem _ hs))
        fun s hs => hsteps s (List.mem_append_right _ hs)

theorem mapIndexed_eq_mapSubtrees (t : Tree α) : ∀ depth index,
    (∀ s ∈ t.steps depth index, f s.turn.index s.tree.value = g s.tree) →
      t.mapIndexed f index = t.mapSubtrees g := by
  induction t using Tree.induction with
  | step v cs ih =>
    intro depth index hsteps
    rw [steps] at hsteps
    rw [mapIndexed, mapSubtrees]
    congr 1
    · exact hsteps _ List.mem_cons_self
    · exact mapIndexedForest_of_mapIndexed (fun t ht => ih t ht (depth + 1))
        fun s hs => hsteps s (List.mem_cons_of_mem _ hs)

theorem mapIndexedForest_eq_mapSubtreesForest (depth index : Nat) {forest : List (Tree α)}
    (hsteps : ∀ s ∈ forestSteps depth index forest, f s.turn.index s.tree.value = g s.tree) :
    mapIndexedForest f index forest = mapSubtreesForest g forest :=
  mapIndexedForest_of_mapIndexed (fun t _ => mapIndexed_eq_mapSubtrees t depth) hsteps

end Mapped

mutual

theorem mapIndexed_congr {f g : Nat → α → β} : ∀ (t : Tree α) (depth index : Nat),
    (∀ s ∈ t.steps depth index, f s.turn.index s.tree.value = g s.turn.index s.tree.value) →
      t.mapIndexed f index = t.mapIndexed g index
  | node v cs, depth, index, hsteps => by
    have hself : f index v = g index v := hsteps _ List.mem_cons_self
    rw [mapIndexed, mapIndexed, hself,
      mapIndexedForest_congr cs (depth + 1) (index + 1) fun s hs =>
        hsteps s (List.mem_cons_of_mem _ hs)]

/-- What a value becomes matters only for the values of the forest with their numbers. -/
theorem mapIndexedForest_congr {f g : Nat → α → β} : ∀ (forest : List (Tree α)) (depth index : Nat),
    (∀ s ∈ forestSteps depth index forest, f s.turn.index s.tree.value = g s.turn.index s.tree.value) →
      mapIndexedForest f index forest = mapIndexedForest g index forest
  | [], _, _, _ => rfl
  | t :: ts, depth, index, hsteps => by
    rw [mapIndexedForest, mapIndexedForest,
      mapIndexed_congr t depth index fun s hs => hsteps s (List.mem_append_left _ hs),
      mapIndexedForest_congr ts depth (index + t.size) fun s hs =>
        hsteps s (List.mem_append_right _ hs)]

end

mutual

theorem size_mapIndexed (f : Nat → α → β) (index : Nat) :
    ∀ t : Tree α, (t.mapIndexed f index).size = t.size
  | node v cs => by rw [mapIndexed, size, size, forestSize_mapIndexedForest f (index + 1) cs]

theorem forestSize_mapIndexedForest (f : Nat → α → β) (index : Nat) :
    ∀ forest : List (Tree α), forestSize (mapIndexedForest f index forest) = forestSize forest
  | [] => rfl
  | t :: ts => by
    rw [mapIndexedForest, forestSize, forestSize, size_mapIndexed f index t,
      forestSize_mapIndexedForest f (index + t.size) ts]

end

end Tree

namespace Step

variable {α β : Type}

/-- The steps are all taken, each as often as it is given. -/
theorem inOrder_perm (steps : List (Step α)) : inOrder steps ~ steps := by
  -- The steps of the rounds before one, and of this round, are those of the rounds before the next
  -- one.
  have hrounds : ∀ rounds, ((List.range rounds).flatMap fun round =>
      steps.filter (·.turn.round == round)) ~ steps.filter (·.turn.round < rounds) := by
    intro rounds
    induction rounds with
    | zero => simp
    | succ rounds ih =>
      have hparts := List.filter_append_perm (fun s : Step α => s.turn.round < rounds)
        (steps.filter (·.turn.round < rounds + 1))
      rw [List.filter_filter, List.filter_filter] at hparts
      rw [List.range_succ, List.flatMap_append, List.flatMap_singleton]
      refine (ih.append_right _).trans ?_
      refine .trans (.of_eq ?_) hparts
      congr 1
      · refine List.filter_congr fun s _ => ?_
        simp only [← Bool.decide_and, decide_eq_decide]
        omega
      · refine List.filter_congr fun s _ => ?_
        rw [Bool.eq_iff_iff]
        simp only [beq_iff_eq, Bool.and_eq_true, Bool.not_eq_true', decide_eq_true_eq,
          decide_eq_false_iff_not]
        omega
  have hall : steps.filter (·.turn.round < lastRound steps + 1) = steps := by
    refine List.filter_eq_self.mpr fun s hs => ?_
    have hround := round_le_lastRound hs
    simp only [decide_eq_true_eq]
    omega
  exact (hrounds (lastRound steps + 1)).trans (.of_eq hall)

/-- Among results by number, with one result for a number, the first of the number is the result. -/
theorem lookup_of_unique {index : Nat} {b : β} {results : List (Nat × β)}
    (hmem : (index, b) ∈ results) (hunique : ∀ b', (index, b') ∈ results → b' = b) :
    results.lookup index = some b := by
  induction results with
  | nil => cases hmem
  | cons result rest ih =>
    obtain ⟨i, b'⟩ := result
    by_cases hindex : index = i
    · subst hindex
      rw [List.lookup_cons_self, hunique b' List.mem_cons_self]
    · have hrest : (index, b) ∈ rest := by simpa [hindex] using hmem
      rw [List.lookup_cons, beq_false_of_ne hindex]
      exact ih hrest fun c hc => hunique c (List.mem_cons_of_mem _ hc)

/-- A step is found by its number, in whatever order the steps were taken. -/
theorem lookup_inOrder {steps : List (Step α)} (hnumbers : (steps.map (·.turn.index)).Nodup)
    (result : Step α → β) {s : Step α} (hs : s ∈ steps) :
    ((inOrder steps).map fun s => (s.turn.index, result s)).lookup s.turn.index =
      some (result s) := by
  refine lookup_of_unique (List.mem_map.mpr ⟨s, mem_inOrder.mpr hs, rfl⟩) fun b hb => ?_
  obtain ⟨s', hs', hsame⟩ := List.mem_map.mp hb
  rw [Prod.mk.injEq] at hsame
  have heq : s' = s := List.inj_on_of_nodup_map hnumbers (mem_inOrder.mp hs') hs hsame.1
  rw [← hsame.2, heq]

end Step

end LayerMarkup
