import LayerMarkup.Proofs.Pruning.Origin

/-!
# What survives pruning

Whether an element is left is decided by its own fields and by the elements above it, and for
containers also by what they are left with.

The path to an element is open when every element on it lets through what stands below it, where the
elements above each of them are taken into account (`OpenPath`).  The proof follows the path
inwards: `mem_forestIds_sort_inner` takes it one element further, and the flag that pruning hands
down says whether a component has been passed (`openPath_cons`).
-/

namespace LayerMarkup.Pruning

open LayerMarkup.Tree

/-- Every element of the path lets through what stands below it. -/
def OpenPath (config : Config) (below : Bool) (path : List Element) : Prop :=
  ∀ above e inner, path = above ++ e :: inner → LetsThrough config below above e

/-- Neither the flag nor the path puts an element below a component. -/
def OutsideComponents (below : Bool) (path : List Element) : Prop :=
  below = false ∧ ∀ a ∈ path, a.dataType ≠ some .component

/-- One of the children is a live text that is not empty. -/
def HoldsText (config : Config) (cs : List (Tree Element)) : Prop :=
  ∃ c ∈ cs, c.value.dataType = some .text ∧ isLive config c.value = true ∧
    ∃ text, c.value.text = some text ∧ text ≠ ""

theorem openPath_nil (config : Config) (below : Bool) : OpenPath config below [] := by
  intro above e inner hpath
  simp at hpath

/-- What stands above an element, and the flag, matter only by whether there is a component. -/
theorem letsThrough_cons {config : Config} {below : Bool} {a e : Element} {above : List Element} :
    LetsThrough config below (a :: above) e ↔
      LetsThrough config (below || isComponent a) above e := by
  have houtside : (below = false ∧ ∀ b ∈ a :: above, b.dataType ≠ some .component) ↔
      ((below || isComponent a) = false ∧ ∀ b ∈ above, b.dataType ≠ some .component) := by
    rw [Bool.or_eq_false_iff, isComponent_eq_false, List.forall_mem_cons, and_assoc]
  constructor
  · rintro ⟨hlive, htext, hdrop, hout⟩
    exact ⟨hlive, htext, hdrop, fun htype => houtside.mp (hout htype)⟩
  · rintro ⟨hlive, htext, hdrop, hout⟩
    exact ⟨hlive, htext, hdrop, fun htype => houtside.mpr (hout htype)⟩

theorem openPath_cons {config : Config} {below : Bool} {a : Element} {path : List Element} :
    OpenPath config below (a :: path) ↔
      LetsThrough config below [] a ∧ OpenPath config (below || isComponent a) path := by
  constructor
  · intro hopen
    refine ⟨hopen [] a path rfl, ?_⟩
    intro above e inner hpath
    exact letsThrough_cons.mp (hopen (a :: above) e inner (by rw [hpath, List.cons_append]))
  · rintro ⟨ha, hopen⟩ above e inner hpath
    cases above with
    | nil =>
      obtain ⟨rfl, -⟩ := List.cons.inj hpath
      exact ha
    | cons b above =>
      obtain ⟨rfl, hrest⟩ := List.cons.inj hpath
      exact letsThrough_cons.mpr (hopen above e inner hrest)

theorem outsideComponents_iff {below : Bool} {path : List Element} :
    OutsideComponents below path ↔ (below || path.any isComponent) = false := by
  rw [OutsideComponents, Bool.or_eq_false_iff, List.any_eq_false]
  simp [isComponent]

/-- The ids at and below a node are left when the path to it is open and they are left of the node,
pruned under the flag that the path hands down. -/
theorem mem_forestIds_prune_stands {config : Config} {below : Bool} {forest : List (Tree Element)}
    (hids : (forestIds forest).Nodup) {path : List Element} {t : Tree Element}
    (hstands : Stands forest path t) {k : String} (hk : k ∈ t.keys Element.id) :
    k ∈ forestIds (prune config below forest) ↔
      OpenPath config below path ∧
        k ∈ forestIds (sort config (below || path.any isComponent) t).all := by
  induction hstands generalizing below with
  | root hmem =>
    rw [mem_forestIds_prune_node hids hmem hk]
    simp [openPath_nil]
  | @inner forest a cs path t hmem hstands ih =>
    -- The key stands below `a`, so it is not the id of `a`, and the path goes on into its children.
    have hinside : k ∈ forestKeys Element.id cs := hstands.keys_subset hk
    have hfresh : k ≠ a.id := fun heq => key_notMem_children hids hmem (heq ▸ hinside)
    rw [mem_forestIds_prune_node hids hmem (by simp [hinside]), mem_forestIds_sort_inner hfresh,
      ih (nodup_children hids hmem) hk, openPath_cons, List.any_cons, Bool.or_assoc, and_assoc]

section Node

variable {config : Config} {below : Bool} {e : Element} {cs : List (Tree Element)}

theorem id_mem_sort_component (hfresh : e.id ∉ forestIds cs)
    (htype : e.dataType = some .component) :
    e.id ∈ forestIds (sort config below (.node e cs)).all ↔
      isLive config e = true ∧ HasKeepRole config e := by
  cases sort_outcome config below e cs with
  | dropped hclosed hs =>
    refine iff_of_false (by simp [hs, Sorted.all, forestIds]) ?_
    rintro ⟨hlive, hkeep⟩
    exact hclosed ⟨hlive, by simp [htype], fun _ hdrop => hdrop.1 hkeep, by simp [htype]⟩
  | promoted _ hkind hs =>
    refine iff_of_false (by simpa [hs, Sorted.all] using id_notMem_prune hfresh) ?_
    rintro ⟨-, hkeep⟩
    rcases hkind with ⟨-, hpromote⟩ | hnone
    · obtain ⟨takesText, hrole⟩ := hasKeepRole_iff.mp hkeep
      rw [hasPromoteRole_iff, hrole] at hpromote
      cases hpromote
    · simp [htype] at hnone
  | component takesText hopen _ hrole hs =>
    refine iff_of_true ?_ ⟨hopen.live, hasKeepRole_iff.mpr ⟨takesText, hrole⟩⟩
    simp [hs, Sorted.all, forestIds, keep]
  | container _ hcontainer _ _ => simp [htype] at hcontainer
  | emptied _ hcontainer _ _ _ => simp [htype] at hcontainer

theorem innerText?_ne_none_iff : innerText? config e ≠ none ↔
    e.dataType = some .text ∧ isLive config e = true ∧ ∃ text, e.text = some text ∧ text ≠ "" := by
  unfold innerText?
  by_cases htype : e.dataType = some .text ∧ isLive config e = true
  · cases e.text <;> simp [htype, Option.filter]
  · simp [htype, ← and_assoc]

theorem inlineText?_eq_none_iff : inlineText? config cs = none ↔ ¬ HoldsText config cs := by
  have htexts : inlineText? config cs = none ↔
      cs.filterMap (fun child => innerText? config child.value) = [] := by
    unfold inlineText?
    split
    · simp_all
    · simp_all
  rw [htexts, List.filterMap_eq_nil_iff]
  constructor
  · rintro hnone ⟨c, hc, htext⟩
    exact innerText?_ne_none_iff.mpr htext (hnone c hc)
  · intro hholds c hc
    by_contra htext
    exact hholds ⟨c, hc, innerText?_ne_none_iff.mp htext⟩

theorem id_mem_sort_container (htype : e.dataType = some .container) :
    e.id ∈ forestIds (sort config below (.node e cs)).all ↔
      isLive config e = true ∧ below = false ∧
        (config.keepEmptyContainers = true ∨ prune config (below || isComponent e) cs ≠ [] ∨
          e.text ≠ none ∨ HoldsText config cs) := by
  have hfilled : isEmptyContainer (keep config true e cs (prune config (below || isComponent e) cs))
        = false ↔
      prune config (below || isComponent e) cs ≠ [] ∨ e.text ≠ none ∨ HoldsText config cs := by
    rw [← Bool.not_eq_true, isEmptyContainer_keep_iff, inlineText?_eq_none_iff]
    tauto
  cases sort_outcome config below e cs with
  | dropped hclosed hs =>
    refine iff_of_false (by simp [hs, Sorted.all, forestIds]) ?_
    rintro ⟨hlive, hbelow, -⟩
    exact hclosed ⟨hlive, by simp [htype], by simp [htype], fun _ => ⟨hbelow, by simp⟩⟩
  | promoted _ hkind _ => simp [htype] at hkind
  | component _ _ hcomponent _ _ => simp [htype] at hcomponent
  | container hopen _ hfull hs =>
    refine iff_of_true (by simp [hs, Sorted.all, forestIds, keep]) ?_
    exact ⟨hopen.live, (hopen.outside (.inl htype)).1, hfull.imp_right hfilled.1⟩
  | emptied _ _ hoption hempty hs =>
    refine iff_of_false (by simp [hs, Sorted.all, forestIds]) ?_
    rintro ⟨-, -, hkept | hfull⟩
    · simp [hoption] at hkept
    · simp [hfilled.2 hfull] at hempty

theorem id_notMem_sort_other (hfresh : e.id ∉ forestIds cs)
    (hcomponent : e.dataType ≠ some .component) (hcontainer : e.dataType ≠ some .container) :
    e.id ∉ forestIds (sort config below (.node e cs)).all := by
  cases sort_outcome config below e cs with
  | dropped _ hs => simp [hs, Sorted.all, forestIds]
  | promoted _ _ hs => simpa [hs, Sorted.all] using id_notMem_prune hfresh
  | component _ _ htype _ _ => exact absurd htype hcomponent
  | container _ htype _ _ => exact absurd htype hcontainer
  | emptied _ htype _ _ _ => exact absurd htype hcontainer

end Node

theorem prune_ne_nil_iff {config : Config} {below : Bool} {forest : List (Tree Element)} :
    prune config below forest ≠ [] ↔
      ∃ k ∈ forestIds forest, k ∈ forestIds (prune config below forest) := by
  constructor
  · intro hne
    obtain ⟨t, ht⟩ := List.exists_mem_of_ne_nil _ hne
    have hk : t.value.id ∈ forestIds (prune config below forest) :=
      keys_subset_forestKeys ht (key_value_mem_keys t)
    exact ⟨_, forestIds_prune_subset _ _ _ hk, hk⟩
  · rintro ⟨k, -, hk⟩ hnil
    simp [hnil, forestIds] at hk

/-- A node that lets through what stands below it, on an open path, is left with something exactly
when one of its descendants is left. -/
theorem prune_children_ne_nil_iff {config : Config} {below : Bool} {forest : List (Tree Element)}
    (hids : (forestIds forest).Nodup) {path : List Element} {e : Element}
    {cs : List (Tree Element)} (hstands : Stands forest path (.node e cs))
    (hopen : OpenPath config below path)
    (hthrough : LetsThrough config (below || path.any isComponent) [] e) :
    prune config (below || path.any isComponent || isComponent e) cs ≠ [] ↔
      ∃ d ∈ forestValues cs, d.id ∈ forestIds (prune config below forest) := by
  have hfresh : e.id ∉ forestIds cs := hstands.key_notMem_below hids
  have hinner : ∀ k ∈ forestIds cs, k ∈ forestIds (prune config below forest) ↔
      k ∈ forestIds (prune config (below || path.any isComponent || isComponent e) cs) := by
    intro k hk
    have hne : k ≠ e.id := fun heq => hfresh (heq ▸ hk)
    have hkeys : k ∈ (node e cs).keys Element.id := by
      rw [keys_node]
      exact List.mem_cons_of_mem _ hk
    rw [mem_forestIds_prune_stands hids hstands hkeys, mem_forestIds_sort_inner hne]
    simp [hopen, hthrough]
  rw [prune_ne_nil_iff]
  constructor
  · rintro ⟨k, hk, hleft⟩
    obtain ⟨d, hd, rfl⟩ := List.mem_map.mp hk
    exact ⟨d, hd, (hinner d.id hk).2 hleft⟩
  · rintro ⟨d, hd, hleft⟩
    have hk : d.id ∈ forestIds cs := List.mem_map_of_mem hd
    exact ⟨d.id, hk, (hinner d.id hk).1 hleft⟩

/-- Survival is decided by the path.  A component is left when it is live, has the role to be kept
and its path is open.  A container is left when it is live, its path is open and without components,
and it is not empty: a descendant is left, it has a text, or it holds one.  Nothing else is left. -/
theorem id_mem_prune_iff_path (config : Config) (below : Bool) (forest : List (Tree Element))
    (hids : (forestIds forest).Nodup) (path : List Element) (e : Element)
    (cs : List (Tree Element)) (hstands : Stands forest path (.node e cs)) :
    (e.dataType = some .component →
      (e.id ∈ forestIds (prune config below forest) ↔
        isLive config e = true ∧ HasKeepRole config e ∧ OpenPath config below path)) ∧
    (e.dataType = some .container →
      (e.id ∈ forestIds (prune config below forest) ↔
        isLive config e = true ∧ OpenPath config below path ∧ OutsideComponents below path ∧
          (config.keepEmptyContainers = true ∨
            (∃ d ∈ forestValues cs, d.id ∈ forestIds (prune config below forest)) ∨
            e.text ≠ none ∨ HoldsText config cs))) ∧
    (e.dataType ≠ some .component → e.dataType ≠ some .container →
      e.id ∉ forestIds (prune config below forest)) := by
  have hfresh : e.id ∉ forestIds cs := hstands.key_notMem_below hids
  rw [mem_forestIds_prune_stands hids hstands (key_mem_keys_node e cs)]
  refine ⟨fun htype => ?_, fun htype => ?_, fun hcomponent hcontainer hleft => ?_⟩
  · rw [id_mem_sort_component hfresh htype]
    tauto
  · rw [id_mem_sort_container htype, ← outsideComponents_iff]
    -- A descendant only speaks for what is left of the children where the path down to them is
    -- open.
    have hdescendants : isLive config e = true → OpenPath config below path →
        OutsideComponents below path →
        (prune config (below || path.any isComponent || isComponent e) cs ≠ [] ↔
          ∃ d ∈ forestValues cs, d.id ∈ forestIds (prune config below forest)) := by
      intro hlive hopen houtside
      refine prune_children_ne_nil_iff hids hstands hopen
        ⟨hlive, by simp [htype], by simp [htype], fun _ => ⟨?_, by simp⟩⟩
      exact outsideComponents_iff.mp houtside
    constructor
    · rintro ⟨hopen, hlive, houtside, hfilled⟩
      exact ⟨hlive, hopen, houtside, by rwa [← hdescendants hlive hopen houtside]⟩
    · rintro ⟨hlive, hopen, houtside, hfilled⟩
      exact ⟨hopen, hlive, houtside, by rwa [hdescendants hlive hopen houtside]⟩
  · exact id_notMem_sort_other hfresh hcomponent hcontainer hleft.2

/-- A frame around a layer that plays no part, in which a button stands. -/
def buttonPath : List Element :=
  [{ id := "1", name := "Page", kind := .frame, dataType := some .container },
    { id := "2", name := "Outline", kind := .other, dataType := none }]

def button : Element :=
  { id := "3", name := "UButton", kind := .occurrence, dataType := some .component }

/-- The button below its path, next to an empty frame. -/
def buttonPage : List (Tree Element) :=
  [.node { id := "1", name := "Page", kind := .frame, dataType := some .container }
    [.node { id := "2", name := "Outline", kind := .other, dataType := none } [.node button []],
      .node { id := "4", name := "Space", kind := .frame, dataType := some .container } []]]

/-- The path to the button is open, so the button is left. -/
theorem button_mem_prune_buttonPage :
    (forestIds buttonPage).Nodup ∧ Stands buttonPage buttonPath (.node button []) ∧
      button.id ∈ forestIds (prune {} false buttonPage) := by
  have hids : (forestIds buttonPage).Nodup := by decide
  have hstands : Stands buttonPage buttonPath (.node button []) :=
    .inner List.mem_cons_self (.inner List.mem_cons_self (.root List.mem_cons_self))
  have hopen : OpenPath {} false buttonPath := by
    refine openPath_cons.mpr ⟨⟨by decide, by decide, by decide, by decide⟩, ?_⟩
    refine openPath_cons.mpr ⟨⟨by decide, by decide, by decide, by decide⟩, ?_⟩
    exact openPath_nil _ _
  refine ⟨hids, hstands, ?_⟩
  have hiff := (id_mem_prune_iff_path {} false buttonPage hids _ _ _ hstands).1 rfl
  exact hiff.2 ⟨by decide, .inr ⟨by decide, by decide, by decide⟩, hopen⟩

end LayerMarkup.Pruning
