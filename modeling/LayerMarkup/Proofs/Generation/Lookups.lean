import LayerMarkup.Proofs.Classification.Holders
import LayerMarkup.Proofs.Generation.Hidden
import LayerMarkup.Proofs.Host.Asked
import Mathlib.Data.List.Flatten

/-!
# Lookups of main components

An occurrence with values is looked up when it has its turn.  If it also holds further properties of
an occurrence around it, it is looked up once more when the latter has its turn.  No layer holds
properties of two occurrences, so it is never looked up a third time.

* `count_mainsAskedIn` — how often a classification asks for the main component of an id.
* `countP_holdersIn_le` — layers hold further properties at most as often as they occur in the
  forest.
* `asksAtMost_generate` — a generation that is stopped early asks for no more than one that is not.
-/

namespace LayerMarkup

open LayerMarkup.Tree
open scoped List

variable {σ : Type} {host : Host σ} {mains : σ → List String} {config : Config}
  {roots : List (Tree Layer)}

/-- The main component of a layer is looked up: it is an occurrence with values. -/
def asksMain (layer : Layer) : Bool := layer.kind = .occurrence && !layer.properties.isEmpty

/-- The ids whose main components are looked up for the properties of a layer. -/
def mainsAsked (layer : Layer) : List String := if asksMain layer then [layer.id] else []

/-- The main component of an id is looked up for the layer. -/
def asksMainOf (id : String) (layer : Layer) : Bool := asksMain layer && layer.id == id

theorem count_mainsAsked (layer : Layer) (id : String) :
    (mainsAsked layer).count id = if asksMainOf id layer then 1 else 0 := by
  rw [mainsAsked, asksMainOf]
  by_cases hasks : asksMain layer = true
  · simp [hasks, List.count_singleton]
  · simp [hasks]

/-- In a list of layers, an id is looked up for every layer that has it and is looked up. -/
theorem count_flatMap_mainsAsked (layers : List Layer) (id : String) :
    (layers.flatMap mainsAsked).count id = layers.countP (asksMainOf id) := by
  induction layers with
  | nil => rfl
  | cons layer layers ih =>
    rw [List.flatMap_cons, List.count_append, ih, count_mainsAsked, List.countP_cons, Nat.add_comm]

namespace Property

theorem asksFor_componentDefaults (htracks : host.Tracks mains) (id : String) :
    (componentDefaults host id).AsksFor mains [] := by
  refine (Task.asksFor_ask_defaults htracks id).bind_nil fun answer => ?_
  cases answer with
  | ok defaults => exact Task.asksFor_pure _
  | error cause => exact Task.asksFor_report_pure _ _

theorem asksFor_occurrenceDefaults (htracks : host.Tracks mains) (layer : Layer) :
    (occurrenceDefaults host layer).AsksFor mains [layer.id] := by
  refine (Task.asksFor_ask_mainComponent htracks layer.id).bind_nil fun answer => ?_
  cases answer with
  | error cause => exact Task.asksFor_report_pure _ _
  | ok main =>
    cases main with
    | none => exact Task.asksFor_report_pure _ _
    | some main => exact asksFor_componentDefaults htracks main.id

theorem asksFor_resolve (htracks : host.Tracks mains) (config : Config) (layer : Layer) :
    (resolve host config layer).AsksFor mains (mainsAsked layer) := by
  unfold resolve mainsAsked asksMain
  cases hkind : layer.kind with
  | occurrence =>
    by_cases hempty : layer.properties.isEmpty = true
    · simp only [hempty]
      exact Task.asksFor_pure _
    · simp only [hempty]
      exact (asksFor_occurrenceDefaults htracks layer).bind_nil fun _ => Task.asksFor_pure _
  | component =>
    by_cases hempty : layer.variants.isEmpty = true
    · simp only [hempty]
      exact Task.asksFor_pure _
    · simp only [hempty]
      exact (asksFor_componentDefaults htracks layer.id).bind_nil fun _ => Task.asksFor_pure _
  | text | frame | group | section_ | rectangle | componentSet | other => exact Task.asksFor_pure _

end Property

namespace Classification

/-- The ids whose main components are looked up in the turn of the layer at the top of a tree. -/
def mainsAskedAt (config : Config) (t : Tree Layer) : List String :=
  mainsAsked t.value ++ (holder? config t).elim [] mainsAsked

theorem asksFor_propertiesOf (htracks : host.Tracks mains) (config : Config) (t : Tree Layer) :
    (propertiesOf host config t).AsksFor mains (mainsAskedAt config t) := by
  obtain ⟨layer, children⟩ := t
  refine (Property.asksFor_resolve htracks config layer).bind fun own => ?_
  rw [holder?, value_node, children_node]
  by_cases hkind : layer.kind = .occurrence
  · simp only [hkind, if_true]
    cases firstPropertiesLayer? config.propertiesSuffix children with
    | none => exact Task.asksFor_pure _
    | some holder =>
      refine (Property.asksFor_resolve htracks config holder).bind_nil fun further => ?_
      exact Task.asksFor_report_pure _ _
  · simp only [hkind, if_false]
    exact Task.asksFor_pure _

theorem asksFor_resolveStep (htracks : host.Tracks mains) (config : Config) (step : Step Layer) :
    (resolveStep host config step).AsksFor mains (mainsAskedAt config step.tree) := by
  refine (asksFor_propertiesOf htracks config step.tree).bind_nil fun properties => ?_
  exact Task.asksFor_report_pure _ _

/-- The ids whose main components are looked up for a forest. -/
def mainsAskedIn (config : Config) (roots : List (Tree Layer)) : List String :=
  (forestSubtrees roots).flatMap (mainsAskedAt config)

theorem asksFor_classifyForest (htracks : host.Tracks mains) (config : Config)
    (roots : List (Tree Layer)) :
    (classifyForest host config roots).AsksFor mains
      ((Step.inOrder (forestSteps 0 0 roots)).flatMap fun step => mainsAskedAt config step.tree) := by
  refine Task.AsksFor.bind_nil ?_ fun resolved => Task.asksFor_pure _
  exact Task.AsksFor.mapM fun step => asksFor_resolveStep htracks config step

/-- The order of the turns does not matter for how often an id is looked up. -/
theorem mainsAskedAt_inOrder_perm (config : Config) (roots : List (Tree Layer)) :
    ((Step.inOrder (forestSteps 0 0 roots)).flatMap fun step => mainsAskedAt config step.tree) ~
      mainsAskedIn config roots := by
  rw [mainsAskedIn, ← map_tree_forestSteps 0 0 roots, List.flatMap_map]
  exact (Step.inOrder_perm _).flatMap_right _

/-- The layers of a forest that hold further properties, once for every occurrence that they do so
for. -/
def holdersIn (config : Config) (roots : List (Tree Layer)) : List Layer :=
  (forestSubtrees roots).filterMap (holder? config)

theorem holdersIn_cons (config : Config) (layer : Layer) (cs ts : List (Tree Layer)) :
    holdersIn config (.node layer cs :: ts) =
      (holder? config (.node layer cs)).toList ++ holdersIn config cs ++ holdersIn config ts := by
  rw [holdersIn, forestSubtrees, subtrees, List.cons_append, List.filterMap_cons]
  cases holder? config (.node layer cs) <;> simp [holdersIn]

/-- Layers hold further properties at most as often as they occur in the forest: what is found below
an occurrence is inside it, and what is found beside others belongs to none of them.  The layer that
a search of the whole forest would find is still free. -/
theorem countP_holdersIn_le (config : Config) (p : Layer → Bool) : ∀ roots : List (Tree Layer),
    (firstPropertiesLayer? config.propertiesSuffix roots).toList.countP p +
        (holdersIn config roots).countP p ≤
      (forestValues roots).countP p
  | [] => by simp [firstPropertiesLayer?, holdersIn, forestSubtrees, forestValues]
  | .node layer cs :: ts => by
    have hbelow := countP_holdersIn_le config p cs
    have hlater := countP_holdersIn_le config p ts
    have hvalues : (forestValues (.node layer cs :: ts)).countP p =
        [layer].countP p + (forestValues cs).countP p + (forestValues ts).countP p := by
      rw [forestValues, values, List.cons_append, List.countP_cons, List.countP_append,
        List.countP_singleton]
      omega
    rw [hvalues, holdersIn_cons, List.countP_append, List.countP_append,
      firstPropertiesLayer?_cons, holder?, value_node, children_node]
    by_cases hnamed : Text.endsWith layer.name config.propertiesSuffix = true
    · rw [if_pos hnamed, Option.toList_some]
      split
      · omega
      · rw [Option.toList_none, List.countP_nil]
        omega
    · rw [if_neg hnamed]
      by_cases hkind : layer.kind = .occurrence
      · rw [if_pos hkind, if_pos hkind]
        omega
      · rw [if_neg hkind, if_neg hkind, Option.toList_none, List.countP_nil]
        cases hfound : firstPropertiesLayer? config.propertiesSuffix cs with
        | some found =>
          rw [hfound] at hbelow
          rw [Option.some_or]
          omega
        | none =>
          rw [Option.none_or]
          omega

/-- An id is looked up once for every layer that has it and is looked up, and once more for every
occurrence whose further properties such a layer holds. -/
theorem count_mainsAskedIn (config : Config) (roots : List (Tree Layer)) (id : String) :
    (mainsAskedIn config roots).count id =
      (forestValues roots).countP (asksMainOf id) +
        (holdersIn config roots).countP (asksMainOf id) := by
  have hparts := List.flatMap_append_perm (forestSubtrees roots) (fun t => mainsAsked t.value)
    (fun t => (holder? config t).elim [] mainsAsked)
  have hown : (forestSubtrees roots).flatMap (fun t => mainsAsked t.value) =
      (forestValues roots).flatMap mainsAsked := by
    rw [← map_value_forestSubtrees, List.flatMap_map]
  have hfurther : (forestSubtrees roots).flatMap (fun t => (holder? config t).elim [] mainsAsked) =
      (holdersIn config roots).flatMap mainsAsked := by
    rw [holdersIn, List.filterMap_eq_flatMap_toList, List.flatMap_assoc]
    refine List.flatMap_congr fun t _ => ?_
    cases holder? config t <;> simp
  rw [mainsAskedIn, ← count_flatMap_mainsAsked, ← count_flatMap_mainsAsked, ← hown, ← hfurther,
    ← List.count_append]
  exact (hparts.count_eq id).symm

end Classification

/-! ## Attempts

A layer that fails at its turn asks for no more than it would otherwise, and a layer that is called
off asks for nothing. -/

namespace Choices

variable {c : Choices}

theorem asksAtMost_componentDefaults (htracks : host.Tracks mains) (id : String) :
    (Attempt.componentDefaults host id).AsksAtMost mains [] :=
  Attempt.asksAtMost_absorb (Task.asksFor_ask_defaults htracks id) _

theorem asksAtMost_occurrenceDefaults (htracks : host.Tracks mains) (layer : Layer) :
    (Attempt.occurrenceDefaults host layer).AsksAtMost mains [layer.id] := by
  refine (Attempt.asksAtMost_absorb (Task.asksFor_ask_mainComponent htracks layer.id) _).bind_nil
    fun main => ?_
  rcases main with _ | _ | main
  · exact Attempt.asksAtMost_pure _
  · exact (Attempt.asksAtMost_report _).bind_nil fun _ => Attempt.asksAtMost_pure _
  · exact asksAtMost_componentDefaults htracks main.id

theorem asksAtMost_resolve (htracks : host.Tracks mains) (c : Choices) (layer : Layer) :
    (c.resolve host layer).AsksAtMost mains (mainsAsked layer) := by
  unfold resolve mainsAsked asksMain
  cases hkind : layer.kind with
  | occurrence =>
    by_cases hempty : layer.properties.isEmpty = true
    · simp only [hempty]
      exact Attempt.asksAtMost_pure _
    · simp only [hempty]
      exact (asksAtMost_occurrenceDefaults htracks layer).bind_nil fun _ => Attempt.asksAtMost_lift _
  | component =>
    by_cases hempty : layer.variants.isEmpty = true
    · simp only [hempty]
      exact Attempt.asksAtMost_pure _
    · simp only [hempty]
      exact (asksAtMost_componentDefaults htracks layer.id).bind_nil fun _ => Attempt.asksAtMost_lift _
  | text | frame | group | section_ | rectangle | componentSet | other =>
    exact Attempt.asksAtMost_pure _

/-- The holder that is found is the one that would be found with settings of the right types. -/
theorem asksAtMost_propertiesOf (htracks : host.Tracks mains) (c : Choices) (t : Tree Layer) :
    (c.propertiesOf host t).AsksAtMost mains (Classification.mainsAskedAt c.config t) := by
  obtain ⟨layer, children⟩ := t
  refine (asksAtMost_resolve htracks c layer).bind fun own => ?_
  rw [Classification.holder?, value_node, children_node]
  by_cases hkind : layer.kind = .occurrence
  · simp only [hkind, if_true]
    rcases yields_firstPropertiesLayer? (c := c) children with hfound | ⟨cause, -, hfails⟩
    · rw [hfound]
      cases Classification.firstPropertiesLayer? c.config.propertiesSuffix children with
      | none => exact Attempt.asksAtMost_pure _
      | some holder =>
        refine (asksAtMost_resolve htracks c holder).bind_nil fun further => ?_
        exact (Attempt.asksAtMost_report _).bind_nil fun _ => Attempt.asksAtMost_pure _
    · rw [hfails]
      exact fun p => ⟨[], List.nil_sublist _, rfl⟩
  · simp only [hkind, if_false]
    exact Attempt.asksAtMost_pure _

theorem asksAtMost_classifyStep (htracks : host.Tracks mains) (c : Choices) (step : Step Layer) :
    (c.classifyStep host step).AsksAtMost mains (Classification.mainsAskedAt c.config step.tree) := by
  refine (asksAtMost_propertiesOf htracks c step.tree).bind_nil fun properties => ?_
  refine (Attempt.asksAtMost_lift _).nil_bind fun e => ?_
  exact (Attempt.asksAtMost_report _).bind_nil fun _ => Attempt.asksAtMost_pure _

theorem asksAtMost_takeStep (htracks : host.Tracks mains) (c : Choices) (roots : List (Tree Layer))
    (record : Interruption.Record Element) (step : Step Layer) :
    (Interruption.takeStep (c.classifyStep host) roots record step).AsksAtMost mains
      (Classification.mainsAskedAt c.config step.tree) := by
  rw [Interruption.takeStep]
  split
  · refine Task.AsksAtMost.bind_nil (asksAtMost_classifyStep htracks c step) fun outcome => ?_
    cases outcome with
    | ok e => exact (Task.asksFor_pure _).asksAtMost
    | error cause => exact (Task.asksFor_pure _).asksAtMost
  · exact fun p => ⟨[], List.nil_sublist _, rfl⟩

/-- An interrupted classification asks for some of what is asked for in the turns of all layers. -/
theorem asksAtMost_classifyForest (htracks : host.Tracks mains) (c : Choices)
    (roots : List (Tree Layer)) :
    (c.classifyForest host roots).AsksAtMost mains
      ((Step.inOrder (forestSteps 0 0 roots)).flatMap fun step =>
        Classification.mainsAskedAt c.config step.tree) := by
  refine Attempt.AsksAtMost.bind_nil ?_ fun classified => Attempt.asksAtMost_pure _
  refine Task.AsksAtMost.bind_nil ?_ fun record => ?_
  · exact Task.AsksAtMost.foldlM (asksAtMost_takeStep htracks c roots) _ _
  · split
    · exact (Task.asksFor_pure _).asksAtMost
    · exact (Task.asksFor_pure _).asksAtMost

end Choices

namespace Generator

open Classification

theorem asksAtMost_carryOut {α : Type} {stages : Attempt σ α} {ids : List String}
    (hstages : stages.AsksAtMost mains ids) : (carryOut stages).AsksAtMost mains ids := by
  refine Task.AsksAtMost.bind_nil hstages fun outcome => ?_
  cases outcome with
  | ok a => exact (Task.asksFor_pure _).asksAtMost
  | error cause => exact (Task.asksFor_report_pure _ _).asksAtMost

/-- The ids whose main components are looked up in the turns of all layers, in the order of the
turns. -/
def mainsInOrder (config : Config) (roots : List (Tree Layer)) : List String :=
  (Step.inOrder (forestSteps 0 0 roots)).flatMap fun step => mainsAskedAt config step.tree

theorem asksAtMost_prunedForest (htracks : host.Tracks mains) (g : Generator)
    (roots : List (Tree Layer)) :
    (g.prunedForest host roots).AsksAtMost mains (mainsInOrder g.config roots) := by
  have hclassify := Choices.asksAtMost_classifyForest (htracks.remembering g.memory) g.toChoices roots
  have hstages : (g.prunedElements host roots).AsksAtMost mains (mainsInOrder g.config roots) :=
    hclassify.withMemory.bind_nil fun classified =>
      (Attempt.asksAtMost_lift _).nil_bind fun pruned => Attempt.asksAtMost_pure _
  intro p
  by_cases hroots : roots = []
  · subst hroots
    exact ⟨[], List.nil_sublist _, rfl⟩
  · rw [prunedForest_of_ne_nil hroots]
    exact asksAtMost_carryOut hstages p

/-- A generation asks for no more than the classification of all layers does. -/
theorem asksAtMost_generate (htracks : host.Tracks mains) (g : Generator) (roots : List (Tree Layer)) :
    (g.generate host roots).AsksAtMost mains (mainsInOrder g.config roots) := by
  refine (asksAtMost_prunedForest htracks g roots).bind_nil fun pruned => ?_
  cases pruned with
  | error refusal => exact (Task.asksFor_pure _).asksAtMost
  | ok pruned =>
    refine (asksAtMost_carryOut (Attempt.asksAtMost_lift _)).bind_nil fun rendered => ?_
    cases rendered with
    | error refusal => exact (Task.asksFor_pure _).asksAtMost
    | ok markup => exact (Task.asksFor_report_pure _ _).asksAtMost

/-- With settings of the right types it asks for all of that. -/
theorem asksFor_generate_of_typed (htracks : host.Tracks mains) {g : Generator}
    (hsettings : g.mistyped = none) (roots : List (Tree Layer)) :
    (g.generate host roots).AsksFor mains (mainsInOrder g.config roots) := by
  intro p
  by_cases hroots : roots = []
  · subst hroots
    rfl
  · rw [generate_of_pruned hsettings (prunedForest_of_typed hsettings hroots host p),
      prunedForest_eq_of_typed hsettings hroots]
    exact (asksFor_classifyForest (htracks.remembering g.memory) g.config roots).withMemory p

/-- Where ids are distinct, a generation asks for the main component of an id at most twice, and at
most once unless it is the id of an occurrence with values that holds further properties of another
one.  With settings of the right types it asks for the main components of all occurrences with
values, and for those of these that hold further properties once more. -/
theorem count_mainComponent_generate (g : Generator) (host : Host σ) (roots : List (Tree Layer)) (s : σ)
    (id : String) (hids : (forestKeys Layer.id roots).Nodup) :
    let asked := ((g.generate host.recorded roots).run (s, [])).2.1.2
    asked.count (.mainComponent id) ≤ 2 ∧
      ((∀ layer ∈ holdersIn g.config roots, layer.id = id → asksMain layer = false) →
        asked.count (.mainComponent id) ≤ 1) ∧
      (g.mistyped = none → asked.count (.mainComponent id) =
        (forestValues roots).countP (asksMainOf id) +
          (holdersIn g.config roots).countP (asksMainOf id)) := by
  intro asked
  have hall := (mainsAskedAt_inOrder_perm g.config roots).count_eq id
  obtain ⟨ids, hless, hasked⟩ := asksAtMost_generate host.tracks_recorded g roots { host := (s, []) }
  have hcount : asked.count (.mainComponent id) = ids.count id :=
    Lookup.count_of_filterMap_main? hasked id
  have hforest := count_mainsAskedIn g.config roots id
  have hle : ids.count id ≤ (mainsAskedIn g.config roots).count id := hall ▸ hless.count_le id
  -- At most one layer has the id, and it holds further properties at most once.
  have hone : (forestValues roots).countP (asksMainOf id) ≤ 1 := by
    have hid : (forestKeys Layer.id roots).count id ≤ 1 := List.nodup_iff_count_le_one.mp hids id
    rw [forestKeys, List.count, List.countP_map] at hid
    refine Nat.le_trans (List.countP_mono_left fun layer _ hasks => ?_) hid
    exact (Bool.and_eq_true_iff.mp hasks).2
  have hholders := countP_holdersIn_le g.config (asksMainOf id) roots
  refine ⟨by omega, fun hnone => ?_, fun hright => ?_⟩
  · have hzero : (holdersIn g.config roots).countP (asksMainOf id) = 0 := by
      refine List.countP_eq_zero.mpr fun layer hlayer hasks => ?_
      obtain ⟨hmain, hid⟩ := Bool.and_eq_true_iff.mp hasks
      rw [hnone layer hlayer (beq_iff_eq.mp hid)] at hmain
      cases hmain
    omega
  · have hexact := asksFor_generate_of_typed host.tracks_recorded hright roots { host := (s, []) }
    exact (Lookup.count_of_filterMap_main? hexact id).trans (hall.trans hforest)

/-- A card with its own label and a layer that holds its size. -/
def heldCard : List (Tree Layer) :=
  [.node { id := "1", name := "UCard", kind := .occurrence,
           properties := .ofList [("label", .string "Hi")] }
    [.node { id := "2", name := "card_properties", kind := .occurrence,
             properties := .ofList [("size", .string "big")] } []]]

/-- The card is looked up once, the layer in it twice, and other ids not at all. -/
theorem count_mainComponent_generate_heldCard :
    let asked := ((Generator.generate {} oneComponentHost.recorded heldCard).run ((), [])).2.1.2
    (forestKeys Layer.id heldCard).Nodup ∧ asked.count (.mainComponent "1") ≤ 1 ∧
      asked.count (.mainComponent "2") = 2 ∧ asked.count (.mainComponent "3") = 0 := by
  have hids : (forestKeys Layer.id heldCard).Nodup := by decide
  have hcard := count_mainComponent_generate {} oneComponentHost heldCard () "1" hids
  have hholder := count_mainComponent_generate {} oneComponentHost heldCard () "2" hids
  have hother := count_mainComponent_generate {} oneComponentHost heldCard () "3" hids
  refine ⟨hids, hcard.2.1 (by decide +kernel), ?_, ?_⟩
  · rw [hholder.2.2 rfl]
    decide +kernel
  · rw [hother.2.2 rfl]
    decide +kernel

/-- Ids are distinct and the main component of one is asked for twice, although nothing else is. -/
theorem mainComponent_asked_twice :
    let roots : List (Tree Layer) :=
      [.node { id := "1", name := "UCard", kind := .occurrence }
        [.node { id := "2", name := "x_properties", kind := .occurrence,
                 properties := .ofList [("size", .string "big")] } []]]
    (forestKeys Layer.id roots).Nodup ∧
      ((Generator.generate {} oneComponentHost.recorded roots).run ((), [])).2.1.2 =
        [.mainComponent "2", .defaults "c", .mainComponent "2"] ∧
      ¬ ((Generator.generate {} oneComponentHost.recorded roots).run ((), [])).2.1.2.count
        (.mainComponent "2") ≤ 1 := by
  decide +kernel

end Generator

end LayerMarkup
