import LayerMarkup.Proofs.Generation.Outcome
import LayerMarkup.Snapshot.Markup

/-!
# Rendering of snapshots

The markup of a document is that of the snapshot it holds, and the markup of a snapshot depends on
nothing but the elements of its selection (`markupOf_fst`, `markupOf_congr`).  These depend on the
snapshot by the selected layers and by the defaults that it knows for them (`elements_congr`).
-/

namespace LayerMarkup

namespace Classification

variable {answers other : Answers} {config : Config} {suffix : String} {found : Layer}

mutual

theorem mem_values_of_propertiesLayer? : ∀ t : Tree Layer,
    propertiesLayer? suffix t = some found → found ∈ t.values
  | .node layer children, hfound => by
    rw [propertiesLayer?] at hfound
    rw [Tree.values]
    split at hfound
    · cases hfound
      exact List.mem_cons_self
    · split at hfound
      · cases hfound
      · exact List.mem_cons_of_mem _ (mem_forestValues_of_firstPropertiesLayer? children hfound)

theorem mem_forestValues_of_firstPropertiesLayer? : ∀ forest : List (Tree Layer),
    firstPropertiesLayer? suffix forest = some found → found ∈ Tree.forestValues forest
  | [], hfound => by cases hfound
  | t :: ts, hfound => by
    rw [firstPropertiesLayer?] at hfound
    rw [Tree.forestValues]
    split at hfound
    · rename_i layer hlayer
      cases hfound
      exact List.mem_append_left _ (mem_values_of_propertiesLayer? t hlayer)
    · exact List.mem_append_right _ (mem_forestValues_of_firstPropertiesLayer? ts hfound)

end

/-- The element of a layer depends on what is known about the layer and about those below it. -/
theorem elementAt_congr {t : Tree Layer}
    (hknown : ∀ layer ∈ t.values,
      Property.knownDefaults answers layer = Property.knownDefaults other layer) :
    elementAt answers config t = elementAt other config t := by
  obtain ⟨layer, children⟩ := t
  rw [Tree.values, List.forall_mem_cons] at hknown
  obtain ⟨htop, hbelow⟩ := hknown
  have hproperties : propertiesAt answers config (.node layer children) =
      propertiesAt other config (.node layer children) := by
    rw [propertiesAt, propertiesAt, Property.resolved, Property.resolved, htop]
    cases hholder : firstPropertiesLayer? config.propertiesSuffix children with
    | none => rfl
    | some holder =>
      have hmem := mem_forestValues_of_firstPropertiesLayer? children hholder
      simp only [Property.resolved, hbelow holder hmem]
  rw [elementAt, elementAt, hproperties]

theorem mapSubtrees_elementAt_congr (t : Tree Layer)
    (hknown : ∀ layer ∈ t.values,
      Property.knownDefaults answers layer = Property.knownDefaults other layer) :
    t.mapSubtrees (elementAt answers config) = t.mapSubtrees (elementAt other config) := by
  induction t using Tree.induction with
  | step layer children ih =>
    rw [Tree.mapSubtrees, Tree.mapSubtrees, elementAt_congr hknown, Tree.mapSubtreesForest_eq_map,
      Tree.mapSubtreesForest_eq_map]
    congr 1
    refine List.map_congr_left fun child hchild => ih child hchild fun below hbelow => hknown below ?_
    rw [Tree.values, Tree.forestValues_eq_flatMap]
    exact List.mem_cons_of_mem _ (List.mem_flatMap_of_mem hchild hbelow)

end Classification

namespace Snapshot

variable {s s' : Snapshot} {config : Config}

/-- What a snapshot says to every id. -/
def answers (s : Snapshot) : Answers where
  mainComponent := s.mainComponent
  defaults := s.defaults

/-- The elements of the selected layers. -/
def elements (s : Snapshot) (config : Config) : List (Tree Element) :=
  Tree.mapSubtreesForest (Classification.elementAt s.answers config) s.selection

/-- The markup of the selected layers, if there are any. -/
def rendered (s : Snapshot) (config : Config) : Except SnapshotError String :=
  if s.selection.isEmpty then .error (.refused .nothingSelected)
  else .ok
    (Markup.render config 0 (Markup.ofElements config (Pruning.prune config false (s.elements config))))

theorem generate_eq_rendered (s : Snapshot) (config : Config) :
    (((Generator.generate { config } s.host s.selection).run ()).1.map Generated.markup).mapError
      SnapshotError.refused = s.rendered config := by
  unfold rendered
  by_cases hselected : s.selection = []
  · rw [hselected]
    rfl
  · have hanswers : s.host.DependsOnId := Host.dependsOnId_ofAnswers _ _
    have hclassified := Generator.classified_of_dependsOnId { config } hanswers s.selection () ()
    rw [Answers.remembered_of_pos (show (0 : Int) < 256 by decide)] at hclassified
    have hmade := Generator.generate_of_typed (g := { config }) rfl hselected s.host { host := () }
    rw [hclassified] at hmade
    have hrun : ((Generator.generate { config } s.host s.selection).run ()).1 = .ok _ := hmade
    rw [hrun, if_neg (by simpa using hselected)]
    rfl

/-- The markup of a document is that of the snapshot that it holds. -/
theorem markupOf_fst (config : Config) (document : Json) (start : Option String) :
    (markupOf config document start).1 = (do
      let s ← (ofDocument document).mapError .document
      let config ← (config.withTagStart start).mapError .config
      s.rendered config) := by
  unfold markupOf
  cases ofDocument document with
  | error _ => rfl
  | ok s =>
    cases config.withTagStart start with
    | error _ => rfl
    | ok config => exact generate_eq_rendered s config

/-- Documents have the same markup if their snapshots have, or if they are refused for the same
reason. -/
theorem markupOf_congr {document other : Json}
    (hrendered : (ofDocument other).map rendered = (ofDocument document).map rendered) (config : Config)
    (start : Option String) : (markupOf config other start).1 = (markupOf config document start).1 := by
  have hmarkup : ∀ document, (markupOf config document start).1 = (do
      let render ← ((ofDocument document).map rendered).mapError .document
      let config ← (config.withTagStart start).mapError .config
      render config) := by
    intro document
    rw [markupOf_fst]
    cases ofDocument document <;> rfl
  rw [hmarkup, hmarkup, hrendered]

/-- The elements of a selection are the same from two snapshots that know the same defaults for its
layers. -/
theorem elements_congr (hselection : s'.selection = s.selection)
    (hknown : ∀ layer ∈ Tree.forestValues s.selection,
      Property.knownDefaults s'.answers layer = Property.knownDefaults s.answers layer) :
    s'.elements config = s.elements config := by
  rw [elements, elements, hselection, Tree.mapSubtreesForest_eq_map, Tree.mapSubtreesForest_eq_map]
  refine List.map_congr_left fun t ht => ?_
  refine Classification.mapSubtrees_elementAt_congr t fun layer hlayer => hknown layer ?_
  rw [Tree.forestValues_eq_flatMap]
  exact List.mem_flatMap_of_mem ht hlayer

theorem rendered_congr (hselection : s'.selection = s.selection)
    (hknown : ∀ layer ∈ Tree.forestValues s.selection,
      Property.knownDefaults s'.answers layer = Property.knownDefaults s.answers layer) :
    s'.rendered config = s.rendered config := by
  rw [rendered, rendered, hselection, elements_congr hselection hknown]

end Snapshot

end LayerMarkup
