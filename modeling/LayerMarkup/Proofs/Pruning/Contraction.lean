import LayerMarkup.Proofs.Pruning.Origin
import LayerMarkup.Proofs.Tree.Siblings

/-!
# Pruning contracts the forest

The pruned forest is the forest with elements taken out: every element that is left stands below the
nearest of its former ancestors that is left, unchanged but for its text (`Contraction`).

Siblings of the pruned forest may come from different depths.  Their order is read off the siblings
among which their former paths part: an element that was itself one of these comes before an element
that was promoted from below them, and otherwise the former order stays (`ComesBefore`).

* `mem_sort_all` — a tree that comes out for an element stands for this element, or was promoted
  from what is left of its children.
* `exists_stands_of_prune` — the path to an element that is left is its former path, less the
  elements that are not left.
* `pairwise_partsInOrder_prune` — the order among the roots that are left, by induction over the
  forest: the trees promoted from one element come in the order that they had among themselves.
-/

namespace LayerMarkup.Pruning

open LayerMarkup.Tree
open scoped List

variable {config : Config} {below : Bool} {forest : List (Tree Element)}

/-- A tree that comes out for an element is the only one and stands for the element, or it is one of
those that are left of the children, which all come out in its place. -/
theorem mem_sort_all {e : Element} {cs : List (Tree Element)} {u : Tree Element}
    (hu : u ∈ (sort config below (.node e cs)).all) :
    (∃ takesText, u = keep config takesText e cs (prune config (below || isComponent e) cs) ∧
      sort config below (.node e cs) = { kept := [u] }) ∨
    (u ∈ prune config (below || isComponent e) cs ∧
      sort config below (.node e cs) = { promoted := prune config (below || isComponent e) cs }) := by
  cases sort_outcome config below e cs with
  | dropped _ hs => simp [hs, Sorted.all] at hu
  | promoted _ _ hs => exact .inr ⟨by simpa [hs, Sorted.all] using hu, hs⟩
  | component takesText _ _ _ hs =>
    have hsame : u = keep config takesText e cs (prune config (below || isComponent e) cs) := by
      simpa [hs, Sorted.all] using hu
    exact .inl ⟨takesText, hsame, hsame ▸ hs⟩
  | container _ _ _ hs =>
    have hsame : u = keep config true e cs (prune config (below || isComponent e) cs) := by
      simpa [hs, Sorted.all] using hu
    exact .inl ⟨true, hsame, hsame ▸ hs⟩
  | emptied _ _ _ _ hs => simp [hs, Sorted.all] at hu

/-- The element is left in the pruned forest. -/
def isLeftIn (pruned : List (Tree Element)) (e : Element) : Bool := e.id ∈ forestIds pruned

theorem isLeftIn_eq_true {pruned : List (Tree Element)} {e : Element} :
    isLeftIn pruned e = true ↔ e.id ∈ forestIds pruned := by
  simp [isLeftIn]

section Path

variable (hids : (forestIds forest).Nodup) {e : Element} {cs : List (Tree Element)}
  (hmem : node e cs ∈ forest)

include hids hmem

/-- Below an element that something comes out for, the same elements are left as of its children. -/
theorem filter_isLeftIn_inner {path : List Element} {t u : Tree Element}
    (hstands : Stands cs path t) (hu : u ∈ (sort config below (.node e cs)).all) :
    path.filter (isLeftIn (prune config below forest)) =
      path.filter (isLeftIn (prune config (below || isComponent e) cs)) := by
  have hopen : LetsThrough config below [] e := by
    cases sort_outcome config below e cs with
    | dropped _ hs => simp [hs, Sorted.all] at hu
    | promoted hopen _ _ => exact hopen
    | component _ hopen _ _ _ => exact hopen
    | container hopen _ _ _ => exact hopen
    | emptied hopen _ _ _ _ => exact hopen
  refine List.filter_congr fun a ha => ?_
  have hinside : a.id ∈ forestKeys Element.id cs := hstands.key_mem_of_mem_path ha
  have hne : a.id ≠ e.id := fun heq => key_notMem_children hids hmem (heq ▸ hinside)
  rw [Bool.eq_iff_iff, isLeftIn_eq_true, isLeftIn_eq_true,
    mem_forestIds_prune_node hids hmem (by simp [hinside]), mem_forestIds_sort_inner hne]
  simp [hopen]

/-- An element is left exactly when it is kept. -/
theorem isLeftIn_of_kept {u : Tree Element} (hkept : sort config below (.node e cs) = { kept := [u] })
    (hid : u.value.id = e.id) : isLeftIn (prune config below forest) e = true := by
  rw [isLeftIn_eq_true, mem_forestIds_prune_node hids hmem (key_mem_keys_node e cs), hkept]
  simp only [Sorted.all, List.append_nil, forestIds, forestKeys_singleton]
  exact hid ▸ key_value_mem_keys u

theorem isLeftIn_of_promoted
    (hpromoted : sort config below (.node e cs) =
      { promoted := prune config (below || isComponent e) cs }) :
    isLeftIn (prune config below forest) e = false := by
  rw [← Bool.not_eq_true, isLeftIn_eq_true,
    mem_forestIds_prune_node hids hmem (key_mem_keys_node e cs), hpromoted]
  intro hleft
  exact key_notMem_children hids hmem (forestIds_prune_subset _ _ _ hleft)

end Path

/-- The path to an element that is left is its former path, less the elements that are not left. -/
theorem exists_stands_of_prune (hids : (forestIds forest).Nodup) {path' : List Element}
    {u : Tree Element} (hstands : Stands (prune config below forest) path' u) :
    ∃ path e cs, Stands forest path (.node e cs) ∧ core e = core u.value ∧
      path'.map Element.id =
        (path.filter (isLeftIn (prune config below forest))).map Element.id := by
  induction forest using forest_induction generalizing below path' with
  | step forest ih =>
    obtain ⟨w, hw, hcases⟩ := hstands.exists_root
    obtain ⟨⟨e, cs⟩, hmem, hw⟩ := mem_prune.mp hw
    have hinner := nodup_children hids hmem
    -- The root `w` stands for `e`, or it comes out in the place of `e` from further below.
    rcases mem_sort_all hw with ⟨takesText, hkeep, hs⟩ | ⟨hpromoted, hs⟩
    · have hleft := isLeftIn_of_kept hids hmem hs (by rw [hkeep]; rfl)
      rcases hcases with ⟨rfl, rfl⟩ | ⟨rest, rfl, hbelow⟩
      · exact ⟨[], e, cs, .root hmem, by rw [hkeep]; rfl, rfl⟩
      · have hchildren : w.children = prune config (below || isComponent e) cs := by
          rw [hkeep]
          rfl
        obtain ⟨path, f, ds, hf, hcore, hpath⟩ := ih _ hmem hinner (hchildren ▸ hbelow)
        refine ⟨e :: path, f, ds, .inner hmem hf, hcore, ?_⟩
        rw [List.filter_cons_of_pos hleft, filter_isLeftIn_inner hids hmem hf hw, List.map_cons,
          List.map_cons, hpath, hkeep]
        rfl
    · -- `e` drops out of the path, and `w` is a root of what is left of its children.
      have hnotLeft := isLeftIn_of_promoted hids hmem hs
      have hstands' : Stands (prune config (below || isComponent e) cs) path' u := by
        rcases hcases with ⟨rfl, rfl⟩ | ⟨rest, rfl, hbelow⟩
        · exact .root hpromoted
        · cases w
          exact .inner hpromoted hbelow
      obtain ⟨path, f, ds, hf, hcore, hpath⟩ := ih _ hmem hinner hstands'
      refine ⟨e :: path, f, ds, .inner hmem hf, hcore, ?_⟩
      rw [List.filter_cons_of_neg (by simp [hnotLeft]), filter_isLeftIn_inner hids hmem hf hw, hpath,
        children_node]

/-- Of two ids whose paths part into `s` and `t` among the siblings, the first comes before the
second: it alone belongs to one of the siblings, or neither or both do and `s` comes before `t`. -/
def InOrder (siblings : List (Tree Element)) (s t : Tree Element) (k l : String) : Prop :=
  (s.value.id = k ∧ t.value.id ≠ l) ∨ ((s.value.id = k ↔ t.value.id = l) ∧ [s, t] <+ siblings)

/-- Somewhere in the forest the paths to the two elements part, and they part in order. -/
def PartsInOrder (forest : List (Tree Element)) (x y : Tree Element) : Prop :=
  ∃ siblings s t, PartsAt Element.id forest x.value.id y.value.id siblings s t ∧
    InOrder siblings s t x.value.id y.value.id

theorem PartsInOrder.of_node {e : Element} {cs : List (Tree Element)} (hmem : node e cs ∈ forest)
    {x y : Tree Element} (h : PartsInOrder cs x y) : PartsInOrder forest x y := by
  obtain ⟨siblings, s, t, hparts, horder⟩ := h
  exact ⟨siblings, s, t, hparts.of_node hmem, horder⟩

/-- A kept tree is the only one that comes out, and stands for its element. -/
theorem of_mem_kept {t u : Tree Element} (hu : u ∈ (sort config below t).kept) :
    u.value.id = t.value.id ∧ sort config below t = { kept := [u] } := by
  obtain ⟨e, cs⟩ := t
  rcases mem_sort_all (List.mem_append_left _ hu) with ⟨takesText, hkeep, hs⟩ | ⟨_, hs⟩
  · exact ⟨by rw [hkeep]; rfl, hs⟩
  · simp [hs] at hu

/-- A promoted tree is left of the children of its element, and so are all that come out with it. -/
theorem of_mem_promoted {e : Element} {cs : List (Tree Element)} {u : Tree Element}
    (hu : u ∈ (sort config below (.node e cs)).promoted) :
    u.value.id ∈ forestIds cs ∧
      sort config below (.node e cs) = { promoted := prune config (below || isComponent e) cs } := by
  rcases mem_sort_all (List.mem_append_right _ hu) with ⟨takesText, _, hs⟩ | ⟨hpruned, hs⟩
  · simp [hs] at hu
  · exact ⟨forestIds_prune_subset _ _ _ (keys_subset_forestKeys hpruned (key_value_mem_keys u)), hs⟩

/-- The id of a promoted tree is found below its element, not at it. -/
theorem id_of_mem_promoted (hids : (forestIds forest).Nodup) {t u : Tree Element} (ht : t ∈ forest)
    (hu : u ∈ (sort config below t).promoted) :
    t.value.id ≠ u.value.id ∧ u.value.id ∈ t.keys Element.id := by
  obtain ⟨e, cs⟩ := t
  have hinside := (of_mem_promoted hu).1
  refine ⟨fun heq => key_notMem_children hids ht (heq ▸ hinside), ?_⟩
  rw [keys_node]
  exact List.mem_cons_of_mem _ hinside

section Order

variable (hids : (forestIds forest).Nodup)

include hids

/-- Two trees of the forest, one before the other, are different members of it. -/
theorem mem_of_pair_sublist {s t : Tree Element} (hst : [s, t] <+ forest) :
    s ∈ forest ∧ t ∈ forest ∧ s ≠ t := by
  have hnodup : [s, t].Nodup := (nodup_forest hids).sublist hst
  exact ⟨hst.subset (by simp), hst.subset (by simp), by simpa using hnodup⟩

/-- Kept trees come in the order of the elements that they stand for. -/
theorem pairwise_partsInOrder_kept :
    (forest.flatMap fun t => (sort config below t).kept).Pairwise (PartsInOrder forest) := by
  rw [List.pairwise_flatMap]
  constructor
  · -- One tree at most is kept for an element.
    intro t _
    cases hkept : (sort config below t).kept with
    | nil => exact List.Pairwise.nil
    | cons u us =>
      have hs := (of_mem_kept (hkept ▸ List.mem_cons_self)).2
      simp only [hs, List.cons.injEq] at hkept
      simp [← hkept.2]
  · rw [List.pairwise_iff_forall_sublist]
    intro s t hst x hx y hy
    obtain ⟨hs, ht, hne⟩ := mem_of_pair_sublist hids hst
    have hxs := (of_mem_kept hx).1
    have hyt := (of_mem_kept hy).1
    have hxkeys : x.value.id ∈ s.keys Element.id := hxs ▸ key_value_mem_keys s
    have hykeys : y.value.id ∈ t.keys Element.id := hyt ▸ key_value_mem_keys t
    refine ⟨forest, s, t, ⟨self_mem_childLists _, hs, ht, hne, hxkeys, hykeys⟩, .inr ⟨?_, hst⟩⟩
    exact iff_of_true hxs.symm hyt.symm

/-- Promoted trees come in the order of the elements in whose places they come, if those promoted
for one element are in order among themselves. -/
theorem pairwise_partsInOrder_promoted
    (hinner : ∀ e cs, node e cs ∈ forest →
      (prune config (below || isComponent e) cs).Pairwise (PartsInOrder cs)) :
    (forest.flatMap fun t => (sort config below t).promoted).Pairwise (PartsInOrder forest) := by
  rw [List.pairwise_flatMap]
  constructor
  · rintro ⟨e, cs⟩ ht
    cases hpromoted : (sort config below (.node e cs)).promoted with
    | nil => exact List.Pairwise.nil
    | cons u us =>
      have hs := (of_mem_promoted (hpromoted ▸ List.mem_cons_self)).2
      simp only [hs] at hpromoted
      rw [← hpromoted]
      exact (hinner e cs ht).imp (PartsInOrder.of_node ht)
  · rw [List.pairwise_iff_forall_sublist]
    intro s t hst x hx y hy
    obtain ⟨hs, ht, hne⟩ := mem_of_pair_sublist hids hst
    obtain ⟨hxs, hxkeys⟩ := id_of_mem_promoted hids hs hx
    obtain ⟨hyt, hykeys⟩ := id_of_mem_promoted hids ht hy
    refine ⟨forest, s, t, ⟨self_mem_childLists _, hs, ht, hne, hxkeys, hykeys⟩, .inr ⟨?_, hst⟩⟩
    exact iff_of_false hxs hyt

/-- Kept trees come before promoted ones, whichever of their elements is first. -/
theorem partsInOrder_of_kept_of_promoted {x y : Tree Element}
    (hx : x ∈ forest.flatMap fun t => (sort config below t).kept)
    (hy : y ∈ forest.flatMap fun t => (sort config below t).promoted) : PartsInOrder forest x y := by
  obtain ⟨s, hs, hx⟩ := List.mem_flatMap.mp hx
  obtain ⟨t, ht, hy⟩ := List.mem_flatMap.mp hy
  obtain ⟨hxs, hkept⟩ := of_mem_kept hx
  obtain ⟨hyt, hykeys⟩ := id_of_mem_promoted hids ht hy
  have hxkeys : x.value.id ∈ s.keys Element.id := hxs ▸ key_value_mem_keys s
  have hne : s ≠ t := by
    rintro rfl
    simp [hkept] at hy
  refine ⟨forest, s, t, ⟨self_mem_childLists _, hs, ht, hne, hxkeys, hykeys⟩, .inl ⟨?_, hyt⟩⟩
  exact hxs.symm

end Order

/-- The roots that are left are in order: those kept, then those promoted. -/
theorem pairwise_partsInOrder_prune (hids : (forestIds forest).Nodup) :
    (prune config below forest).Pairwise (PartsInOrder forest) := by
  induction forest using forest_induction generalizing below with
  | step forest ih =>
    rw [prune, Sorted.all, kept_sortForest, promoted_sortForest, List.pairwise_append]
    refine ⟨pairwise_partsInOrder_kept hids, ?_, fun x hx y hy => ?_⟩
    · apply pairwise_partsInOrder_promoted hids
      intro e cs hmem
      exact ih _ hmem (nodup_children hids hmem)
    · exact partsInOrder_of_kept_of_promoted hids hx hy

/-- Siblings of the pruned forest are its roots, or siblings of what is left below one element. -/
theorem mem_childLists_prune {siblings : List (Tree Element)}
    (hsiblings : siblings ∈ childLists (prune config below forest)) :
    siblings = prune config below forest ∨ ∃ e cs, node e cs ∈ forest ∧
      siblings ∈ childLists (prune config (below || isComponent e) cs) := by
  rcases mem_childLists.mp hsiblings with hroots | ⟨v, ds, hmem, hinner⟩
  · exact .inl hroots
  · obtain ⟨⟨e, cs⟩, ht, hu⟩ := mem_prune.mp hmem
    refine .inr ⟨e, cs, ht, ?_⟩
    rcases mem_sort_all hu with ⟨takesText, hkeep, _⟩ | ⟨hpruned, _⟩
    · rw [keep, node.injEq] at hkeep
      exact hkeep.2 ▸ hinner
    · exact mem_childLists_of_node hpruned hinner

theorem pairwise_partsInOrder_siblings (hids : (forestIds forest).Nodup)
    {siblings : List (Tree Element)} (hsiblings : siblings ∈ childLists (prune config below forest)) :
    siblings.Pairwise (PartsInOrder forest) := by
  induction forest using forest_induction generalizing below with
  | step forest ih =>
    rcases mem_childLists_prune hsiblings with rfl | ⟨e, cs, hmem, hinner⟩
    · exact pairwise_partsInOrder_prune hids
    · exact (ih _ hmem (nodup_children hids hmem) hinner).imp (PartsInOrder.of_node hmem)

/-- The first of two elements comes before the second: their paths part in the forest, and wherever
they do so, in order. -/
def ComesBefore (forest : List (Tree Element)) (x y : Tree Element) : Prop :=
  (∃ siblings s t, PartsAt Element.id forest x.value.id y.value.id siblings s t) ∧
    ∀ siblings s t, PartsAt Element.id forest x.value.id y.value.id siblings s t →
      InOrder siblings s t x.value.id y.value.id

theorem PartsInOrder.comesBefore (hids : (forestIds forest).Nodup) {x y : Tree Element}
    (h : PartsInOrder forest x y) : ComesBefore forest x y := by
  obtain ⟨siblings, s, t, hparts, horder⟩ := h
  refine ⟨⟨siblings, s, t, hparts⟩, fun siblings' s' t' hparts' => ?_⟩
  obtain ⟨rfl, rfl, rfl⟩ := hparts.unique hids hparts'
  exact horder

/-- A forest is left of another one by taking elements out. -/
structure Contraction (forest pruned : List (Tree Element)) : Prop where
  /-- No element is left twice. -/
  nodup : (forestIds pruned).Nodup
  /-- Every element that is left was there. -/
  exists_former : ∀ e' ∈ forestValues pruned, ∃ e ∈ forestValues forest, e.id = e'.id
  /-- It is what it was, its text and its children aside. -/
  unchanged : ∀ e' ∈ forestValues pruned, ∀ e ∈ forestValues forest, e.id = e'.id →
    { e' with text := e.text } = e
  /-- Its parent is the nearest of its former ancestors that is left, if there is any. -/
  parent : ∀ path' e' cs' path e cs, Stands pruned path' (.node e' cs') →
    Stands forest path (.node e cs) → e.id = e'.id →
      path'.getLast?.map Element.id = (path.reverse.find? (isLeftIn pruned)).map Element.id
  /-- Siblings come in the order in which their former paths part. -/
  order : ∀ siblings ∈ childLists pruned, siblings.Pairwise (ComesBefore forest)

/-- Pruning contracts the forest: it duplicates, makes up and misplaces nothing. -/
theorem prune_contraction (config : Config) (below : Bool) (forest : List (Tree Element))
    (hids : (forestIds forest).Nodup) : Contraction forest (prune config below forest) where
  nodup := nodup_forestIds_prune config below hids
  exists_former e' he' := by
    have hid : e'.id ∈ forestIds (prune config below forest) := List.mem_map_of_mem he'
    exact List.mem_map.mp (forestIds_prune_subset config below forest hid)
  unchanged e' he' e he hid := by
    have hcore : core e' ∈ forestKeys core forest :=
      (forestKeys_core_prune_subperm config below forest).subset (List.mem_map_of_mem he')
    obtain ⟨f, hf, hsame⟩ := List.mem_map.mp hcore
    have hfid : f.id = e'.id := id_eq_of_core_eq hsame
    have hfe : f = e := List.inj_on_of_nodup_map hids hf he (hfid.trans hid.symm)
    exact core_eq_core_iff.mp (hfe ▸ hsame)
  parent path' e' cs' path e cs hstands' hstands hid := by
    obtain ⟨former, f, ds, hf, hcore, hpath⟩ := exists_stands_of_prune hids hstands'
    have hfid : f.id = e'.id := id_eq_of_core_eq hcore
    obtain ⟨rfl, -⟩ := hstands.unique hids hf (hid.trans hfid.symm)
    rw [← List.getLast?_map, hpath, List.getLast?_map, List.getLast?_filter]
  order siblings hsiblings :=
    (pairwise_partsInOrder_siblings hids hsiblings).imp (PartsInOrder.comesBefore hids)

/-- A card inside a stand-in for it, followed by a badge. -/
def standInPage : List (Tree Element) :=
  [.node { id := "1", name := "Page", kind := .frame, dataType := some .container }
    [.node { id := "2", name := "reference", kind := .occurrence, dataType := some .component }
        [.node { id := "3", name := "UCard", kind := .occurrence, dataType := some .component } []],
      .node { id := "4", name := "UBadge", kind := .occurrence, dataType := some .component } []]]

/-- The card moves up to the page, behind the badge that is kept. -/
theorem prune_contraction_standInPage :
    (forestIds standInPage).Nodup ∧ forestIds (prune {} false standInPage) = ["1", "4", "3"] ∧
      Contraction standInPage (prune {} false standInPage) := by
  have hids : (forestIds standInPage).Nodup := by decide
  exact ⟨hids, by decide +kernel, prune_contraction {} false standInPage hids⟩

end LayerMarkup.Pruning
