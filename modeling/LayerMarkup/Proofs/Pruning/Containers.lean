import LayerMarkup.Proofs.Pruning.Grammar

/-!
# Keeping empty containers

The same forest is pruned twice, once without and once with empty containers.  What is left without
them is left with them, below the same elements, and what else is left is hollow: a container
without a text in which nothing but hollow containers stands (`prune_filled`).

An element does not change, with one exception.  A container takes the texts that it holds only if
it is left without children, and a hollow container that stands in it now is a child
(`SameOrFilled`).

* `Filled` — a forest with hollow trees put in at any place.
* `filled_sort` — one step: a tree, given its children.
* `Filled.stands`, `Filled.hollow_or_mem` — what the two forests have under their paths.
-/

namespace LayerMarkup

open LayerMarkup.Tree

/-- The configuration that keeps empty containers, or drops them. -/
def Config.keepingContainers (config : Config) (keeps : Bool) : Config :=
  { config with keepEmptyContainers := keeps }

namespace Pruning

variable {config : Config} {below keeps : Bool} {e : Element}
  {cs forest us vs us' vs' : List (Tree Element)}

/-- A container without a text that holds nothing but such containers. -/
inductive Hollow : Tree Element → Prop
  | node {e : Element} {cs : List (Tree Element)} (hcontainer : e.dataType = some .container)
      (htext : e.text = none) (hchildren : ∀ c ∈ cs, Hollow c) : Hollow (.node e cs)

/-- An element with its children `cs` and, where hollow trees were put in, with its children `cs'`.
Its text stays, unless it is a container that has got its first children. -/
structure SameOrFilled (e : Element) (cs : List (Tree Element)) (e' : Element)
    (cs' : List (Tree Element)) : Prop where
  core_eq : core e' = core e
  text : e'.text = e.text ∨
    (e.dataType = some .container ∧ cs = [] ∧ cs' ≠ [] ∧ (∀ c ∈ cs', Hollow c) ∧ e'.text = none)

/-- The second forest is the first one with hollow trees put in. -/
inductive Filled : List (Tree Element) → List (Tree Element) → Prop
  | nil : Filled [] []
  | added {u : Tree Element} {us vs : List (Tree Element)} (hhollow : Hollow u) (hrest : Filled us vs) :
      Filled us (u :: vs)
  | kept {e e' : Element} {cs cs' us vs : List (Tree Element)} (hsame : SameOrFilled e cs e' cs')
      (hinner : Filled cs cs') (hrest : Filled us vs) : Filled (.node e cs :: us) (.node e' cs' :: vs)

namespace Filled

theorem refl : ∀ us : List (Tree Element), Filled us us
  | [] => .nil
  | .node _ cs :: us => .kept ⟨rfl, .inl rfl⟩ (refl cs) (refl us)

theorem append (h : Filled us vs) (h' : Filled us' vs') : Filled (us ++ us') (vs ++ vs') := by
  induction h with
  | nil => exact h'
  | added hhollow _ ih => exact .added hhollow ih
  | kept hsame hinner _ _ ih => exact .kept hsame hinner ih

theorem flatMap {f g : Tree Element → List (Tree Element)} (htrees : ∀ t ∈ forest, Filled (f t) (g t)) :
    Filled (forest.flatMap f) (forest.flatMap g) := by
  induction forest with
  | nil => exact .nil
  | cons t ts ih =>
    rw [List.flatMap_cons, List.flatMap_cons]
    exact (htrees t List.mem_cons_self).append (ih fun s hs => htrees s (List.mem_cons_of_mem _ hs))

/-- Put into nothing, the trees are all there is. -/
theorem hollow_of_nil (h : Filled [] vs) : ∀ v ∈ vs, Hollow v := by
  induction vs with
  | nil => exact fun v hv => by cases hv
  | cons u vs ih =>
    cases h with
    | added hhollow hrest => exact List.forall_mem_cons.mpr ⟨hhollow, ih hrest⟩

theorem ne_nil (h : Filled us vs) (hus : us ≠ []) : vs ≠ [] := by
  cases h with
  | nil => exact hus
  | added _ _ => exact List.cons_ne_nil _ _
  | kept _ _ _ => exact List.cons_ne_nil _ _

end Filled

/-- The trees that are kept, and those that are promoted, with hollow trees put in. -/
structure FilledSorted (sorted sorted' : Sorted) : Prop where
  kept : Filled sorted.kept sorted'.kept
  promoted : Filled sorted.promoted sorted'.promoted

theorem FilledSorted.refl (sorted : Sorted) : FilledSorted sorted sorted :=
  ⟨.refl sorted.kept, .refl sorted.promoted⟩

section Kept

variable {pruned pruned' : List (Tree Element)}

theorem keep_eq_node (config : Config) (takesText : Bool) (e : Element)
    (cs pruned : List (Tree Element)) :
    keep config takesText e cs pruned = .node (keep config takesText e cs pruned).value pruned := rfl

/-- A container that is kept anyway. -/
theorem sameOrFilled_keep (htype : e.dataType = some .container) (htext : e.text = none)
    (hinner : Filled pruned pruned') :
    SameOrFilled (keep config true e cs pruned).value pruned
      (keep config true e cs pruned').value pruned' where
  core_eq := rfl
  text := by
    cases pruned with
    | cons u us =>
      obtain ⟨v, vs, rfl⟩ := List.exists_cons_of_ne_nil (hinner.ne_nil (List.cons_ne_nil u us))
      exact .inl rfl
    | nil =>
      cases pruned' with
      | nil => exact .inl rfl
      | cons v vs => exact .inr ⟨htype, rfl, List.cons_ne_nil v vs, hinner.hollow_of_nil, htext⟩

/-- A container that is dropped, if it is empty. -/
theorem hollow_keep (htype : e.dataType = some .container) (hinner : Filled [] pruned')
    (hempty : isEmptyContainer (keep config true e cs []) = true) :
    Hollow (keep config true e cs pruned') := by
  obtain ⟨-, hinline, htext⟩ := isEmptyContainer_keep_iff.mp hempty
  rw [keep_eq_node]
  refine .node htype ?_ hinner.hollow_of_nil
  cases pruned' with
  | nil => simp [keep, hinline, htext]
  | cons v vs => exact htext

end Kept

section Sorted

mutual

theorem sort_below_keepingContainers : ∀ t : Tree Element,
    sort (config.keepingContainers keeps) true t = sort config true t
  | .node e cs => by
    simp only [sort, if_true, sortForest_below_keepingContainers cs]
    rfl

/-- Below components there are no containers, empty or not. -/
theorem sortForest_below_keepingContainers : ∀ forest : List (Tree Element),
    sortForest (config.keepingContainers keeps) true forest = sortForest config true forest
  | [] => rfl
  | t :: ts => by
    rw [sortForest, sortForest, sort_below_keepingContainers t, sortForest_below_keepingContainers ts]

end

/-- What the option makes of a live container outside of components. -/
theorem sort_container_keepingContainers (hlive : isLive config e = true)
    (htype : e.dataType = some .container) :
    sort (config.keepingContainers keeps) false (.node e cs) =
      if (isEmptyContainer (keep config true e cs (prune (config.keepingContainers keeps) false cs)) &&
        !keeps) = true then {}
      else { kept := [keep config true e cs (prune (config.keepingContainers keeps) false cs)] } := by
  have hlives : isLive (config.keepingContainers keeps) e = true := hlive
  simp only [sort, hlives, htype]
  rfl

section Step

variable (htext : e.text ≠ none → e.dataType = some .text)
  (hinner : Filled (prune (config.keepingContainers false) false cs)
    (prune (config.keepingContainers true) false cs))

include htext hinner

theorem filled_sort_container (hlive : isLive config e = true) (htype : e.dataType = some .container) :
    FilledSorted (sort (config.keepingContainers false) false (.node e cs))
      (sort (config.keepingContainers true) false (.node e cs)) := by
  have hnone : e.text = none := by
    by_contra hsome
    rw [htext hsome] at htype
    cases htype
  rw [sort_container_keepingContainers hlive htype, sort_container_keepingContainers hlive htype,
    Bool.not_true, Bool.and_false, if_neg Bool.false_ne_true, Bool.not_false, Bool.and_true]
  by_cases hempty :
    isEmptyContainer (keep config true e cs (prune (config.keepingContainers false) false cs))
      = true
  · -- The container is left out without the option, and hollow with it.
    have hnil : prune (config.keepingContainers false) false cs = [] :=
      (isEmptyContainer_keep_iff.mp hempty).1
    rw [if_pos hempty]
    rw [hnil] at hinner hempty
    exact ⟨.added (hollow_keep htype hinner hempty) .nil, .nil⟩
  · rw [if_neg hempty]
    exact ⟨.kept (sameOrFilled_keep htype hnone hinner) hinner .nil, .nil⟩

/-- What empty containers add to a tree, given what they add to its children. -/
theorem filled_sort : FilledSorted (sort (config.keepingContainers false) below (.node e cs))
    (sort (config.keepingContainers true) below (.node e cs)) := by
  cases below with
  | true =>
    rw [sort_below_keepingContainers, sort_below_keepingContainers]
    exact .refl _
  | false =>
    by_cases hcontainer : isLive config e = true ∧ e.dataType = some .container
    · exact filled_sort_container htext hinner hcontainer.1 hcontainer.2
    · -- Only containers look at the option, and all else is read off the same settings.
      have hlives : ∀ keeps, isLive (config.keepingContainers keeps) e = isLive config e := fun _ => rfl
      have hroles : ∀ keeps, role (config.keepingContainers keeps) e = role config e := fun _ => rfl
      simp only [sort, hlives, hroles, sortForest_below_keepingContainers]
      by_cases hlive : isLive config e = true
      · rw [if_pos hlive, if_pos hlive]
        cases htype : e.dataType with
        | none => exact ⟨.nil, hinner⟩
        | some part =>
          cases part with
          | text => exact ⟨.nil, .nil⟩
          | container => exact absurd ⟨hlive, htype⟩ hcontainer
          | component =>
            cases role config e with
            | keep takesText => exact .refl _
            | promote => exact .refl _
            | drop => exact .refl _
      · rw [if_neg hlive, if_neg hlive]
        exact ⟨.nil, .nil⟩

end Step

/-- The option only adds hollow trees. -/
theorem prune_filled (htexts : TextOnlyInTexts forest) :
    Filled (prune (config.keepingContainers false) below forest)
      (prune (config.keepingContainers true) below forest) := by
  induction forest using forest_induction generalizing below with
  | step forest ih =>
    have htrees : ∀ t ∈ forest, FilledSorted (sort (config.keepingContainers false) below t)
        (sort (config.keepingContainers true) below t) := by
      rintro ⟨e, cs⟩ hmem
      obtain ⟨htext, hinner⟩ := htexts.of_mem hmem
      exact filled_sort htext (ih _ hmem hinner)
    simp only [prune, Sorted.all, kept_sortForest, promoted_sortForest]
    exact (Filled.flatMap fun t ht => (htrees t ht).kept).append
      (.flatMap fun t ht => (htrees t ht).promoted)
end Sorted

section Stands

/-- A forest with more trees has at the old places what it had. -/
theorem stands_cons {path : List Element} {t : Tree Element} (u : Tree Element)
    (hstands : Stands us path t) : Stands (u :: us) path t := by
  cases hstands with
  | root hmem => exact .root (List.mem_cons_of_mem _ hmem)
  | inner hmem hbelow => exact .inner (List.mem_cons_of_mem _ hmem) hbelow

theorem Hollow.of_stands {path : List Element} {u : Tree Element} (hstands : Stands us path u) :
    (∀ v ∈ us, Hollow v) → Hollow u := by
  induction hstands with
  | root hmem => exact fun hall => hall _ hmem
  | inner hmem _ ih =>
    intro hall
    cases hall _ hmem with
    | node _ _ hchildren => exact ih hchildren

/-- What stands in the first forest stands in the second one, below the same elements. -/
theorem Filled.stands (hfilled : Filled us vs) {path : List Element} {e : Element}
    {cs : List (Tree Element)} (hstands : Stands us path (.node e cs)) :
    ∃ path' e' cs', Stands vs path' (.node e' cs') ∧ path'.map core = path.map core ∧
      SameOrFilled e cs e' cs' := by
  induction hfilled generalizing path with
  | nil =>
    cases hstands with
    | root hmem => cases hmem
    | inner hmem _ => cases hmem
  | @added u _ _ _ _ ih =>
    obtain ⟨path', e', cs', hstands', hpath, hsame⟩ := ih hstands
    exact ⟨path', e', cs', stands_cons u hstands', hpath, hsame⟩
  | @kept f f' ds ds' us vs hsame _ _ ihInner ihRest =>
    -- The node is the first one, or below it, or belongs to the rest.
    have hlater : Stands us path (.node e cs) →
        ∃ path' e' cs', Stands (.node f' ds' :: vs) path' (.node e' cs') ∧
        path'.map core = path.map core ∧ SameOrFilled e cs e' cs' := by
      intro hrest
      obtain ⟨path', e', cs', hstands', hpath, hsame'⟩ := ihRest hrest
      exact ⟨path', e', cs', stands_cons _ hstands', hpath, hsame'⟩
    cases hstands with
    | root hmem =>
      rcases List.mem_cons.mp hmem with hfirst | hmem
      · cases hfirst
        exact ⟨[], f', ds', .root List.mem_cons_self, rfl, hsame⟩
      · exact hlater (.root hmem)
    | inner hmem hbelow =>
      rcases List.mem_cons.mp hmem with hfirst | hmem
      · cases hfirst
        obtain ⟨path', e', cs', hstands', hpath, hsame'⟩ := ihInner hbelow
        refine ⟨f' :: path', e', cs', .inner List.mem_cons_self hstands', ?_, hsame'⟩
        rw [List.map_cons, List.map_cons, hpath, hsame.core_eq]
      · exact hlater (.inner hmem hbelow)

/-- What stands in the second forest is hollow, or one of the elements of the first one. -/
theorem Filled.hollow_or_mem (hfilled : Filled us vs) {path : List Element} {u : Tree Element}
    (hstands : Stands vs path u) : Hollow u ∨ core u.value ∈ forestKeys core us := by
  induction hfilled generalizing path with
  | nil =>
    cases hstands with
    | root hmem => cases hmem
    | inner hmem _ => cases hmem
  | added hhollow _ ih =>
    cases hstands with
    | root hmem =>
      rcases List.mem_cons.mp hmem with rfl | hmem
      · exact .inl hhollow
      · exact ih (.root hmem)
    | inner hmem hbelow =>
      rcases List.mem_cons.mp hmem with rfl | hmem
      · cases hhollow with
        | node _ _ hchildren => exact .inl (Hollow.of_stands hbelow hchildren)
      · exact ih (.inner hmem hbelow)
  | kept hsame _ _ ihInner ihRest =>
    rw [forestKeys_cons, keys_node, List.mem_append, List.mem_cons]
    cases hstands with
    | root hmem =>
      rcases List.mem_cons.mp hmem with rfl | hmem
      · exact .inr (.inl (.inl hsame.core_eq))
      · exact (ihRest (.root hmem)).imp_right .inr
    | inner hmem hbelow =>
      rcases List.mem_cons.mp hmem with hfirst | hmem
      · cases hfirst
        exact (ihInner hbelow).imp_right fun hcore => .inl (.inr hcore)
      · exact (ihRest (.inner hmem hbelow)).imp_right .inr

end Stands

/-- With empty containers kept, every element that is left without them is left too, below the same
elements, and with the same text unless it is a container that has now got its first children.  All
else that is left are containers without a text that hold nothing but such containers. -/
theorem prune_keepingContainers (config : Config) (below : Bool) (forest : List (Tree Element))
    (hids : (forestIds forest).Nodup) (htexts : TextOnlyInTexts forest) :
    let dropping := prune (config.keepingContainers false) below forest
    let keeping := prune (config.keepingContainers true) below forest
    (∀ path e cs, Stands dropping path (.node e cs) →
      ∃ path' e' cs', Stands keeping path' (.node e' cs') ∧ path'.map core = path.map core ∧
        SameOrFilled e cs e' cs' ∧
        ∀ other t, Stands keeping other t → t.value.id = e.id → other = path' ∧ t = .node e' cs') ∧
    ∀ path u, Stands keeping path u → u.value.id ∉ forestIds dropping → Hollow u := by
  intro dropping keeping
  have hfilled : Filled dropping keeping := prune_filled htexts
  have hdistinct : (forestKeys Element.id keeping).Nodup := nodup_forestIds_prune _ _ hids
  refine ⟨fun path e cs hstands => ?_, fun path u hstands hnew => ?_⟩
  · obtain ⟨path', e', cs', hstands', hpath, hsame⟩ := hfilled.stands hstands
    refine ⟨path', e', cs', hstands', hpath, hsame, fun other t hother hid => ?_⟩
    have hid' : e'.id = e.id := id_eq_of_core_eq hsame.core_eq
    exact Stands.unique hdistinct hother hstands' (hid.trans hid'.symm)
  · refine (hfilled.hollow_or_mem hstands).resolve_right fun hcore => hnew ?_
    rw [forestIds_eq_map_core]
    exact List.mem_map.mpr ⟨_, hcore, id_core _⟩

/-- A page with a button and some space after it, and a label with some space after its text. -/
def spacedPage : List (Tree Element) :=
  [.node { id := "1", name := "Page", kind := .frame, dataType := some .container }
    [.node { id := "2", name := "Outline", kind := .other, dataType := none }
      [.node { id := "3", name := "UButton", kind := .occurrence, dataType := some .component } [],
        .node { id := "4", name := "Space", kind := .frame, dataType := some .container }
          [.node { id := "5", name := "Gap", kind := .frame, dataType := some .container } []]],
      .node { id := "6", name := "Label", kind := .frame, dataType := some .container }
        [.node { id := "7", name := "Word", kind := .text, dataType := some .text,
                 text := some "Ok" } []]]]

/-- The button stays below the page, and the space and the gap in it come in. -/
theorem prune_keepingContainers_spacedPage :
    (forestIds spacedPage).Nodup ∧ TextOnlyInTexts spacedPage ∧
      forestIds (prune (Config.keepingContainers {} false) false spacedPage) = ["1", "6", "3"] ∧
      forestIds (prune (Config.keepingContainers {} true) false spacedPage) =
        ["1", "6", "3", "4", "5"] ∧
      ∀ path u, Stands (prune (Config.keepingContainers {} true) false spacedPage) path u →
        u.value.id ∉ ["1", "6", "3"] → Hollow u := by
  have hids : (forestIds spacedPage).Nodup := by decide
  have htexts : TextOnlyInTexts spacedPage := by
    unfold TextOnlyInTexts
    decide
  have hdropping : forestIds (prune (Config.keepingContainers {} false) false spacedPage) =
      ["1", "6", "3"] := by
    decide +kernel
  have hpage := prune_keepingContainers {} false spacedPage hids htexts
  refine ⟨hids, htexts, hdropping, by decide +kernel, fun path u hstands hnew => ?_⟩
  exact hpage.2 path u hstands (hdropping ▸ hnew)

/-- A label with an empty frame beside its text. -/
def gapLabel : List (Tree Element) :=
  [.node { id := "1", name := "Label", kind := .frame, dataType := some .container }
    [.node { id := "2", name := "Word", kind := .text, dataType := some .text, text := some "Ok" } [],
      .node { id := "3", name := "Gap", kind := .frame, dataType := some .container } []]]

/-- The label has its text only if the frame is dropped. -/
theorem text_of_gapLabel_lost :
    (forestIds gapLabel).Nodup ∧ TextOnlyInTexts gapLabel ∧
      (forestValues (prune (Config.keepingContainers {} false) false gapLabel)).map
        (fun e => (e.id, e.text)) = [("1", some "Ok")] ∧
      (forestValues (prune (Config.keepingContainers {} true) false gapLabel)).map
        (fun e => (e.id, e.text)) = [("1", none), ("3", none)] ∧
      ¬ ∀ e ∈ forestValues (prune (Config.keepingContainers {} false) false gapLabel),
        ∃ e' ∈ forestValues (prune (Config.keepingContainers {} true) false gapLabel),
          e'.id = e.id ∧ e'.text = e.text := by
  have htexts : TextOnlyInTexts gapLabel := by
    unfold TextOnlyInTexts
    decide
  exact ⟨by decide, htexts, by decide +kernel, by decide +kernel, by decide +kernel⟩

end Pruning

end LayerMarkup
