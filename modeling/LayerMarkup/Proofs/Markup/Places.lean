import LayerMarkup.Markup.OfElements
import LayerMarkup.Proofs.Classification.Shape
import LayerMarkup.Proofs.Tree.Keys

/-!
# Tags in the places of elements

The markup of a forest has a tag in the place of every element, less the elements inside bare texts,
which are not shown (`ofElements_eq_mapForest`).  So a law of the tags of elements holds all over
the markup of a forest (`forall₂_ofElements`).
-/

namespace LayerMarkup.Markup

open LayerMarkup.Tree

variable {config : Config} {R : Element → Tag → Prop} {forest : List (Tree Element)}

mutual

/-- The part of a tree of elements that markup shows: all but what is inside bare texts. -/
def shownElement : Tree Element → Tree Element
  | .node e children => .node e (if e.dataType = some .text then [] else shownElements children)

def shownElements : List (Tree Element) → List (Tree Element)
  | [] => []
  | t :: ts => shownElement t :: shownElements ts

end

mutual

theorem ofElement_eq_map (config : Config) :
    ∀ t : Tree Element, ofElement config t = (shownElement t).map (tagOf config)
  | .node e children => by
    rw [ofElement, shownElement, map]
    split
    · rfl
    · rw [ofElements_eq_mapForest config children]

theorem ofElements_eq_mapForest (config : Config) : ∀ forest : List (Tree Element),
    ofElements config forest = mapForest (tagOf config) (shownElements forest)
  | [] => rfl
  | t :: ts => by
    rw [ofElements, shownElements, mapForest, ofElement_eq_map config t,
      ofElements_eq_mapForest config ts]

end

/-- Where a law holds between every element and its tag, it holds in every place of the markup. -/
theorem forall₂_ofElements (hlaw : ∀ e ∈ forestValues (shownElements forest), R e (tagOf config e)) :
    List.Forall₂ (Matches R) (shownElements forest) (ofElements config forest) := by
  rw [ofElements_eq_mapForest]
  exact forall₂_mapForest _ hlaw

mutual

theorem shownElement_of_no_text : ∀ t : Tree Element, (∀ e ∈ t.values, e.dataType ≠ some .text) →
    shownElement t = t
  | .node e children, htypes => by
    have hbelow : shownElements children = children :=
      shownElements_of_no_text children fun f hf => htypes f (List.mem_cons_of_mem _ hf)
    rw [shownElement, if_neg (htypes e List.mem_cons_self), hbelow]

/-- Without texts everything is shown. -/
theorem shownElements_of_no_text : ∀ forest : List (Tree Element),
    (∀ e ∈ forestValues forest, e.dataType ≠ some .text) → shownElements forest = forest
  | [], _ => rfl
  | t :: ts, htypes => by
    rw [forestValues] at htypes
    rw [shownElements, shownElement_of_no_text t fun e he => htypes e (List.mem_append_left _ he),
      shownElements_of_no_text ts fun e he => htypes e (List.mem_append_right _ he)]

end

/-- Where nothing is a text, a law of elements and their tags holds in every place of the forest. -/
theorem forall₂_ofElements_of_no_text (htypes : ∀ e ∈ forestValues forest, e.dataType ≠ some .text)
    (hlaw : ∀ e ∈ forestValues forest, R e (tagOf config e)) :
    List.Forall₂ (Matches R) forest (ofElements config forest) := by
  have hshown : shownElements forest = forest := shownElements_of_no_text forest htypes
  have hplaces : List.Forall₂ (Matches R) (shownElements forest) (ofElements config forest) :=
    forall₂_ofElements (hshown.symm ▸ hlaw)
  rwa [hshown] at hplaces

end LayerMarkup.Markup
