import Mathlib.Data.List.Forall2
import LayerMarkup.Proofs.Classification.Turns
import LayerMarkup.Proofs.Generation.Outcome

/-!
# The shape of a classified forest

Classification takes nothing away from a forest and adds nothing to it.  Every layer becomes one
element in its place, whether the host answers or fails (`classifyForest_matches`), and all that a
host can change is the properties of occurrences and components.

* `Tree.Matches` — two trees of one shape, with related values at every place.
* `IsElementOf` — what an element has from its layer.
-/

namespace LayerMarkup

namespace Tree

variable {α β γ : Type} {R : α → β → Prop}

/-- Two trees have the same shape, and the relation holds between their values at every place. -/
inductive Matches (R : α → β → Prop) : Tree α → Tree β → Prop
  | node {v : α} {w : β} {cs : List (Tree α)} {ds : List (Tree β)} (hvalue : R v w)
      (hchildren : List.Forall₂ (Matches R) cs ds) : Matches R (node v cs) (node w ds)

/-- A forest mapped by numbers matches the forest, if it does in every tree of it. -/
theorem forall₂_mapIndexedForest {f : Nat → α → β} {forest : List (Tree α)} {depth index : Nat}
    (htrees : ∀ t ∈ forest, ∀ index,
      (∀ s ∈ t.steps depth index, R s.tree.value (f s.turn.index s.tree.value)) →
        Matches R t (t.mapIndexed f index))
    (hsteps : ∀ s ∈ forestSteps depth index forest, R s.tree.value (f s.turn.index s.tree.value)) :
    List.Forall₂ (Matches R) forest (mapIndexedForest f index forest) := by
  induction forest generalizing index with
  | nil => exact .nil
  | cons t ts ih =>
    rw [forestSteps] at hsteps
    rw [mapIndexedForest]
    refine .cons ?_ ?_
    · exact htrees t List.mem_cons_self index fun s hs => hsteps s (List.mem_append_left _ hs)
    · exact ih (fun s hs => htrees s (List.mem_cons_of_mem _ hs))
        fun s hs => hsteps s (List.mem_append_right _ hs)

theorem matches_mapIndexed {f : Nat → α → β} (t : Tree α) : ∀ depth index,
    (∀ s ∈ t.steps depth index, R s.tree.value (f s.turn.index s.tree.value)) →
      Matches R t (t.mapIndexed f index) := by
  induction t using Tree.induction with
  | step v cs ih =>
    intro depth index hsteps
    rw [steps] at hsteps
    rw [mapIndexed]
    refine .node ?_ ?_
    · exact hsteps _ List.mem_cons_self
    · exact forall₂_mapIndexedForest (fun t ht => ih t ht (depth + 1))
        fun s hs => hsteps s (List.mem_cons_of_mem _ hs)

mutual

/-- A mapped tree matches the tree, if the relation holds between each value and what becomes of
it. -/
theorem matches_map {f : α → β} : ∀ t : Tree α, (∀ v ∈ t.values, R v (f v)) → Matches R t (t.map f)
  | node v cs, hvalues => by
    rw [map]
    refine .node (hvalues v List.mem_cons_self) (forall₂_mapForest cs fun w hw => ?_)
    exact hvalues w (List.mem_cons_of_mem _ hw)

theorem forall₂_mapForest {f : α → β} :
    ∀ forest : List (Tree α), (∀ v ∈ forestValues forest, R v (f v)) →
    List.Forall₂ (Matches R) forest (mapForest f forest)
  | [], _ => .nil
  | t :: ts, hvalues => by
    rw [forestValues] at hvalues
    rw [mapForest]
    exact .cons (matches_map t fun v hv => hvalues v (List.mem_append_left _ hv))
      (forall₂_mapForest ts fun v hv => hvalues v (List.mem_append_right _ hv))

end

/-- What the relation says of a value alone holds of every value of a forest that matches
another. -/
theorem forall_mem_of_forall₂ {P : β → Prop} (hP : ∀ v w, R v w → P w) {forest : List (Tree α)} :
    ∀ {others : List (Tree β)}, List.Forall₂ (Matches R) forest others →
      ∀ w ∈ forestValues others, P w := by
  induction forest using forest_induction with
  | step forest ih =>
    intro others hmatches
    induction hmatches with
    | nil =>
      intro w hw
      cases hw
    | cons hfirst _ ihrest =>
      intro w hw
      rcases List.mem_append.mp hw with hw | hw
      · obtain ⟨hvalue, hchildren⟩ := hfirst
        rcases List.mem_cons.mp hw with rfl | hw
        · exact hP _ _ hvalue
        · exact ih _ List.mem_cons_self hchildren w hw
      · exact ihrest (fun t ht => ih t (List.mem_cons_of_mem _ ht)) w hw

section Read

variable {g : β → γ} {h : α → γ} (hread : ∀ v w, R v w → g w = h v)

include hread

theorem Matches.map_eq {t : Tree α} : ∀ {u : Tree β}, Matches R t u → u.map g = t.map h := by
  induction t using Tree.induction with
  | step v cs ih =>
    rintro _ (⟨hvalue, hchildren⟩)
    rw [map, map, hread _ _ hvalue]
    congr 1
    induction hchildren with
    | nil => rfl
    | cons hfirst _ ihrest =>
      rw [mapForest, mapForest, ih _ List.mem_cons_self hfirst,
        ihrest fun c hc => ih c (List.mem_cons_of_mem _ hc)]

/-- What is read off the values of one forest can be read off those of a forest that matches it. -/
theorem mapForest_eq_of_forall₂ {forest : List (Tree α)} {others : List (Tree β)}
    (hmatches : List.Forall₂ (Matches R) forest others) : mapForest g others = mapForest h forest := by
  induction hmatches with
  | nil => rfl
  | cons hfirst _ ih => rw [mapForest, mapForest, hfirst.map_eq hread, ih]

end Read

mutual

theorem length_values : ∀ t : Tree α, t.values.length = t.size
  | node v cs => by rw [values, size, List.length_cons, length_forestValues cs]

theorem length_forestValues : ∀ forest : List (Tree α), (forestValues forest).length = forestSize forest
  | [] => rfl
  | t :: ts => by
    rw [forestValues, forestSize, List.length_append, length_values t, length_forestValues ts]

end

end Tree

/-- What an element has from its layer: all but the properties of an occurrence or a component. -/
structure IsElementOf (config : Config) (layer : Layer) (e : Element) : Prop where
  id : e.id = layer.id
  name : e.name = layer.name
  kind : e.kind = layer.kind
  visible : e.visible = layer.visible
  dataType : e.dataType = DataType.ofKind? layer.kind
  /-- Texts have their characters, and nothing else has a text. -/
  text : e.text = if layer.kind = .text then some (layer.characters.getD "") else none
  /-- Components of all three kinds have properties, and nothing else has. -/
  properties : e.properties.isSome = layer.kind.isComponent
  /-- A set has no values of its own to show. -/
  setProperties : layer.kind = .componentSet → e.properties = some .empty
  /-- Sets have variants, and nothing else has. -/
  variants : e.variants =
    if layer.kind = .componentSet then
      some ((Property.cleanVariants config layer.variants).mapValues .text)
    else none

/-- An element less what the host was asked about: the properties of an occurrence or a
component. -/
def Element.unasked (e : Element) : Element :=
  if e.kind = .occurrence ∨ e.kind = .component then { e with properties := none } else e

namespace Classification

open LayerMarkup.Tree

variable {σ : Type} {config : Config}

theorem isElementOf_elementOf {layer : Layer} {properties : Mapping PropertyValue}
    (hset : layer.kind = .componentSet → properties = .empty) :
    IsElementOf config layer (elementOf config properties layer) where
  id := rfl
  name := rfl
  kind := rfl
  visible := rfl
  dataType := rfl
  text := by
    cases hkind : layer.kind <;>
      simp [elementOf, hkind, DataType.ofKind?, LayerKind.isContainer, LayerKind.isComponent]
  properties := by
    cases hkind : layer.kind <;>
      simp [elementOf, hkind, DataType.ofKind?, LayerKind.isContainer, LayerKind.isComponent]
  setProperties hkind := by
    simp [elementOf, hkind, hset hkind, DataType.ofKind?, LayerKind.isContainer, LayerKind.isComponent]
  variants := rfl

theorem unasked_eq {layer : Layer} {e : Element} (hof : IsElementOf config layer e) :
    e.unasked = (elementOf config .empty layer).unasked := by
  obtain ⟨id, name, kind, dataType, visible, text, properties, variants⟩ := e
  obtain ⟨hid, hname, hkind, hvisible, hdataType, htext, hproperties, hset, hvariants⟩ := hof
  simp only at hid hname hkind hvisible hdataType htext hproperties hset hvariants
  subst hid hname hkind hvisible hdataType htext hvariants
  cases hkind : layer.kind <;>
    simp_all [Element.unasked, elementOf, DataType.ofKind?, LayerKind.isContainer,
      LayerKind.isComponent]

/-- The host is not asked about a set, which has no values of its own. -/
theorem propertiesOf_componentSet {host : Host σ} {layer : Layer} (hkind : layer.kind = .componentSet)
    (children : List (Tree Layer)) (p : Progress σ) :
    (propertiesOf host config (.node layer children) p).1 = .empty := by
  simp only [propertiesOf, Property.resolve, hkind]
  rfl

/-- Every layer becomes an element in its place. -/
theorem forall₂_classifyForest (host : Host σ) (config : Config) (roots : List (Tree Layer))
    (p : Progress σ) :
    List.Forall₂ (Matches (IsElementOf config)) roots (classifyForest host config roots p).1 := by
  rw [classifyForest_eq_mapIndexedForest]
  refine forall₂_mapIndexedForest (fun t _ => matches_mapIndexed t 0) fun s hs => ?_
  obtain ⟨turn, layer, children⟩ := s
  refine isElementOf_elementOf fun hkind => ?_
  rw [lookup_resolveForest hs p, Option.getD_some]
  exact propertiesOf_componentSet hkind children _

/-- Whatever the host answers and however it fails, a forest of layers becomes a forest of elements
of the same shape, and every element has from its layer what it should.  Another host can change
nothing but the properties of occurrences and components.  A generation counts every layer, hidden
and ignored ones too. -/
theorem classifyForest_matches (host : Host σ) (config : Config) (roots : List (Tree Layer)) (s : σ) :
    let elements := ((classifyForest host config roots).run s).1
    List.Forall₂ (Matches (IsElementOf config)) roots elements ∧
      (∀ {τ : Type} (other : Host τ) (t : τ),
        mapForest Element.unasked ((classifyForest other config roots).run t).1 =
          mapForest Element.unasked elements) ∧
      ∀ g : Generator, g.mistyped = none → roots ≠ [] →
        ∃ result, ((g.generate host roots).run s).1 = .ok result ∧
          result.layerCount = (forestValues roots).length := by
  intro elements
  refine ⟨forall₂_classifyForest host config roots _, fun other t => ?_, fun g hsettings hroots => ?_⟩
  · have hread : ∀ layer e, IsElementOf config layer e →
        e.unasked = (elementOf config .empty layer).unasked := fun _ _ => unasked_eq
    have hother :=
      mapForest_eq_of_forall₂ hread (forall₂_classifyForest other config roots { host := t })
    exact hother.trans
      (mapForest_eq_of_forall₂ hread (forall₂_classifyForest host config roots { host := s })).symm
  · exact ⟨_, Generator.generate_of_typed hsettings hroots host { host := s },
      (length_forestValues roots).symm⟩

/-- A hidden frame around a text without characters and an occurrence with a value to look up. -/
def hiddenPanel : List (Tree Layer) :=
  [.node { id := "1", name := "_panel", kind := .frame, visible := false }
    [.node { id := "2", name := "caption", kind := .text } [],
      .node { id := "3", name := "UIcon", kind := .occurrence,
              properties := .ofList [("size", .string "big")] } []]]

/-- A host that knows the default which the occurrence has. -/
def sizeHost : Host Unit :=
  .ofAnswers (fun _ => .ok (some { id := "c" })) (fun _ => .ok (.ofList [("size", .string "big")]))

/-- The two hosts leave the occurrence with different properties, and all else is the same. -/
theorem classifyForest_matches_hiddenPanel :
    let broken := ((classifyForest Generator.brokenHost {} hiddenPanel).run ()).1
    let answered := ((classifyForest sizeHost {} hiddenPanel).run ()).1
    mapForest Element.unasked answered = mapForest Element.unasked broken ∧
      (forestValues broken).map (·.text) = [none, some "", none] ∧
      (forestValues broken).map (·.properties.map Mapping.keys) = [none, none, some ["size"]] ∧
      (forestValues answered).map (·.properties.map Mapping.keys) = [none, none, some []] ∧
      ({} : Generator).mistyped = none ∧ hiddenPanel ≠ [] ∧
      ∃ result, ((Generator.generate {} Generator.brokenHost hiddenPanel).run ()).1 = .ok result ∧
        result.layerCount = 3 := by
  have hroots : hiddenPanel ≠ [] := List.cons_ne_nil _ _
  have hlaw := classifyForest_matches Generator.brokenHost {} hiddenPanel ()
  exact ⟨hlaw.2.1 sizeHost (), by decide +kernel, by decide +kernel, by decide +kernel, rfl, hroots,
    hlaw.2.2 {} rfl hroots⟩

end Classification

end LayerMarkup
