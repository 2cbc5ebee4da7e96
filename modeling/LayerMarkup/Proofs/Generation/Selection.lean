import LayerMarkup.Proofs.Generation.Outcome
import LayerMarkup.Proofs.Markup.Parts
import LayerMarkup.Proofs.Pruning.Origin
import LayerMarkup.Proofs.Pruning.Wrapper
import Mathlib.Algebra.Ring.Nat

/-!
# Selections of several layers

Selecting several layers together gives what selecting each of them alone gives, put in a row: first
the layers that are not wrappers, then the wrappers (`generate_eq_generate_each`).

The layers of one generation share the remembered defaults, and what is remembered for one of them
may be forgotten because of another.  This changes no answers, so every layer is classified as it is
alone (`classified_eq_map`).  Pruning sees wrappers as such by their resolved properties
(`isWrapperLayer`).
-/

namespace LayerMarkup.Generator

variable {σ : Type} {g : Generator} {host : Host σ} {roots : List (Tree Layer)}

/-- Selected alone, the layer is classified as a wrapper. -/
def isWrapperLayer (g : Generator) (host : Host σ) (s : σ) (root : Tree Layer) : Bool :=
  ((g.classified host [root]).run s).1.any fun t => Pruning.IsWrapper g.config t.value

/-- The selected layers in the order in which they come out: the wrappers last. -/
def outputOrder (g : Generator) (host : Host σ) (s : σ) (roots : List (Tree Layer)) :
    List (Tree Layer) :=
  roots.filter (fun root => ¬ g.isWrapperLayer host s root) ++ roots.filter (g.isWrapperLayer host s)

/-- Where the answers of the host are settled, every selected layer is classified by itself. -/
theorem classified_eq_map (g : Generator) (hanswers : host.DependsOnId) (s : σ) :
    ∃ element : Tree Layer → Tree Element, ∀ roots t,
      (g.classified host roots { host := t }).1 = roots.map element := by
  let element := Classification.elementAt ((host.answersIn s).remembered g.memory) g.config
  refine ⟨Tree.mapSubtrees element, fun roots t => ?_⟩
  rw [← Tree.mapSubtreesForest_eq_map]
  exact g.classified_of_dependsOnId hanswers roots s t

/-- The tags of what is left of a forest have names: there is no bare text among them. -/
theorem name_ne_none_of_mem_prune {config : Config} {below : Bool} {forest : List (Tree Element)}
    {t : Tree Tag} (ht : t ∈ Markup.ofElements config (Pruning.prune config below forest)) :
    t.value.name ≠ none := by
  rw [Markup.ofElements_eq_map, List.mem_map] at ht
  obtain ⟨⟨e, cs⟩, hu, rfl⟩ := ht
  have htype : e.dataType ≠ some .text :=
    Pruning.dataType_ne_text_of_mem_prune (Tree.value_mem_forestValues hu)
  show (Markup.tagOf config e).name ≠ none
  simp [Markup.tagOf, htype]

theorem forestSize_eq_sum (roots : List (Tree Layer)) :
    Tree.forestSize roots = (roots.map fun root => Tree.forestSize [root]).sum := by
  induction roots with
  | nil => rfl
  | cons root roots ih => simp [Tree.forestSize, ih]

/-- What is left of the selected layers is what is left of each of them, in the order of the
output. -/
theorem prune_map_eq_flatMap {element : Tree Layer → Tree Element} {s : σ}
    (helement : ∀ root, (g.classified host [root] { host := s }).1 = [element root])
    (roots : List (Tree Layer)) :
    Pruning.prune g.config false (roots.map element) =
      (g.outputOrder host s roots).flatMap fun root => Pruning.prune g.config false [element root] := by
  have hwrapper : g.isWrapperLayer host s =
      fun root => decide (Pruning.IsWrapper g.config (element root).value) := by
    funext root
    show ((g.classified host [root] { host := s }).1.any _) = _
    rw [helement root, List.any_cons, List.any_nil, Bool.or_false]
  rw [Pruning.prune_eq_flatMap, List.filter_map, List.filter_map, ← List.map_append,
    List.flatMap_map, outputOrder, hwrapper]
  simp only [decide_eq_true_eq]
  rfl

/-- The markup of what is left of several layers, by the markup of what is left of each. -/
theorem render_flatMap_prune (config : Config) (forestOf : Tree Layer → List (Tree Element))
    (layers : List (Tree Layer)) :
    Markup.render config 0 (Markup.ofElements config
        (layers.flatMap fun layer => Pruning.prune config false (forestOf layer))) =
      Text.joinLines ((layers.map fun layer => Markup.render config 0 (Markup.ofElements config
        (Pruning.prune config false (forestOf layer)))).filter (· ≠ "")) := by
  let parts := layers.map fun layer =>
    Markup.ofElements config (Pruning.prune config false (forestOf layer))
  have hnames : ∀ part ∈ parts, ∀ t ∈ part, t.value.name ≠ none := by
    intro part hpart t ht
    obtain ⟨layer, -, rfl⟩ := List.mem_map.mp hpart
    exact name_ne_none_of_mem_prune ht
  have hparts : Markup.ofElements config
      (layers.flatMap fun layer => Pruning.prune config false (forestOf layer)) = parts.flatten := by
    rw [Markup.ofElements_eq_map, List.map_flatMap, List.flatMap_def]
    simp only [parts, Markup.ofElements_eq_map]
  rw [hparts, Markup.render_flatten hnames, List.map_map]
  rfl

/-- Layers selected together give what each of them gives alone: the elements in a row, the markup
line below line where there is any, and the layers summed up.  Wrappers come after the other
layers. -/
theorem generate_eq_generate_each (hsettings : g.mistyped = none) (hanswers : host.DependsOnId)
    (hroots : roots ≠ []) (s t : σ) :
    ∃ (made : Generated) (each : Tree Layer → Generated),
      ((g.generate host roots).run s).1 = .ok made ∧
      (∀ root u, ((g.generate host [root]).run u).1 = .ok (each root)) ∧
      made.forest = (g.outputOrder host t roots).flatMap (fun root => (each root).forest) ∧
      made.markup = Text.joinLines
        (((g.outputOrder host t roots).map fun root => (each root).markup).filter (· ≠ "")) ∧
      made.layerCount = (roots.map fun root => (each root).layerCount).sum := by
  obtain ⟨element, helement⟩ := g.classified_eq_map hanswers s
  let left := fun root => Pruning.prune g.config false [element root]
  let markup := fun forest => Markup.render g.config 0 (Markup.ofElements g.config forest)
  have hforest : Pruning.prune g.config false (g.classified host roots { host := s }).1 =
      (g.outputOrder host t roots).flatMap left := by
    rw [helement roots s]
    exact prune_map_eq_flatMap (fun root => helement [root] t) roots
  refine ⟨_, fun root => { markup := markup (left root), forest := left root,
                           layerCount := Tree.forestSize [root] },
    generate_of_typed hsettings hroots host { host := s }, fun root u => ?_, hforest, ?_,
    forestSize_eq_sum roots⟩
  · have hmade := generate_of_typed hsettings (List.cons_ne_nil root []) host { host := u }
    rw [helement [root] u] at hmade
    exact hmade
  · show markup _ = _
    rw [hforest]
    exact render_flatMap_prune g.config (fun root => [element root]) _

/-- Two components: the slot of templates is the body unless they say otherwise. -/
def templateHost : Host Unit :=
  .ofAnswers (fun id => .ok (some { id := if id = "4" then "button" else "template" }))
    (fun id => .ok (if id = "button" then .ofList [("size", .string "small")]
      else .ofList [("slot", .string "body")]))

/-- An occurrence with one value. -/
def occurrenceWith (id name key value : String) (children : List (Tree Layer)) : Tree Layer :=
  .node { id, name, kind := .occurrence, properties := .ofList [(key, .string value)] } children

/-- A template for the body around a card, a template for the footer, and a button. -/
def templateSelection : List (Tree Layer) :=
  [occurrenceWith "1" "Template" "slot" "body"
      [.node { id := "2", name := "UCard", kind := .component } []],
    occurrenceWith "3" "Template" "slot" "footer" [],
    occurrenceWith "4" "UButton" "size" "big" []]

/-- Defaults of one component are remembered at a time, so those of templates are asked for twice.
The template for the body says nothing that templates do not say by default, which makes it a
wrapper. -/
theorem generate_eq_generate_each_templates :
    let g : Generator := { memory := 1 }
    templateSelection ≠ [] ∧ g.mistyped = none ∧ templateHost.DependsOnId ∧
      ((g.generate templateHost.recorded templateSelection).run ((), [])).2.1.2 =
        [.defaults "template", .mainComponent "1", .defaults "button", .mainComponent "4",
          .defaults "template", .mainComponent "3"] ∧
      templateSelection.map (g.isWrapperLayer templateHost ()) = [true, false, false] ∧
      ∃ (made : Generated) (each : Tree Layer → Generated),
        ((g.generate templateHost templateSelection).run ()).1 = .ok made ∧
        (∀ root, ((g.generate templateHost [root]).run ()).1 = .ok (each root)) ∧
        made.forest = (g.outputOrder templateHost () templateSelection).flatMap
          fun root => (each root).forest := by
  have hroots : templateSelection ≠ [] := List.cons_ne_nil _ _
  have hanswers : templateHost.DependsOnId := Host.dependsOnId_ofAnswers _ _
  obtain ⟨made, each, hmade, heach, hforest, -⟩ :=
    generate_eq_generate_each (g := { memory := 1 }) rfl hanswers hroots () ()
  exact ⟨hroots, rfl, hanswers, by decide +kernel, by decide +kernel, made, each, hmade,
    fun root => heach root (), hforest⟩

end LayerMarkup.Generator
