import LayerMarkup.Host.Table
import LayerMarkup.Proofs.Classification.Shape
import LayerMarkup.Proofs.Generation.Lookups
import LayerMarkup.Proofs.Generation.Simulation
import LayerMarkup.Proofs.Host.Absorbed

/-!
# Refusals

With settings of the right types an empty selection is the only reason to refuse a generation
(`generation_refused_iff_nil`).  The host is asked for everything that should be known, it may
answer or fail as it likes, and however little is remembered, every failure ends as a report with
its cause (`absorbs_classifyForest`): it costs a layer its defaults, and every layer still becomes
an element.
-/

namespace LayerMarkup

open LayerMarkup.Tree

variable {σ : Type} {host : Host σ} {kept : σ → List Failure}

namespace Property

theorem absorbs_componentDefaults (hkeeps : host.KeepsFailures kept) (id : String) :
    (componentDefaults host id).Absorbs kept :=
  Task.absorbs_ask (hkeeps.defaults id) (fun _ => Task.absorbs_pure _)
    fun cause => ⟨.defaultsLookupFailed id cause, rfl, none, rfl⟩

theorem absorbs_occurrenceDefaults (hkeeps : host.KeepsFailures kept) (layer : Layer) :
    (occurrenceDefaults host layer).Absorbs kept := by
  refine Task.absorbs_ask (hkeeps.mainComponent layer.id) (fun main => ?_)
    fun cause => ⟨.mainLookupFailed layer.name cause, rfl, none, rfl⟩
  cases main with
  | none => exact (Task.absorbs_report rfl).bind fun _ => Task.absorbs_pure _
  | some main => exact absorbs_componentDefaults hkeeps main.id

theorem absorbs_resolve (hkeeps : host.KeepsFailures kept) (config : Config) (layer : Layer) :
    (resolve host config layer).Absorbs kept := by
  unfold resolve
  cases layer.kind with
  | occurrence =>
    by_cases hempty : layer.properties.isEmpty = true
    · simp only [hempty]
      exact Task.absorbs_pure _
    · simp only [hempty]
      exact (absorbs_occurrenceDefaults hkeeps layer).bind fun _ => Task.absorbs_pure _
  | component =>
    by_cases hempty : layer.variants.isEmpty = true
    · simp only [hempty]
      exact Task.absorbs_pure _
    · simp only [hempty]
      exact (absorbs_componentDefaults hkeeps layer.id).bind fun _ => Task.absorbs_pure _
  | text | frame | group | section_ | rectangle | componentSet | other => exact Task.absorbs_pure _

end Property

namespace Classification

theorem absorbs_propertiesOf (hkeeps : host.KeepsFailures kept) (config : Config) (t : Tree Layer) :
    (propertiesOf host config t).Absorbs kept := by
  obtain ⟨layer, children⟩ := t
  refine (Property.absorbs_resolve hkeeps config layer).bind fun own => ?_
  split
  · cases firstPropertiesLayer? config.propertiesSuffix children with
    | none => exact Task.absorbs_pure _
    | some holder =>
      refine (Property.absorbs_resolve hkeeps config holder).bind fun further => ?_
      exact (Task.absorbs_report rfl).bind fun _ => Task.absorbs_pure _
  · exact Task.absorbs_pure _

/-- In the turns of all layers, every failed lookup is reported. -/
theorem absorbs_classifyForest (hkeeps : host.KeepsFailures kept) (config : Config)
    (roots : List (Tree Layer)) : (classifyForest host config roots).Absorbs kept := by
  refine Task.Absorbs.bind (Task.Absorbs.mapM (fun step => ?_) _) fun resolved => Task.absorbs_pure _
  refine (absorbs_propertiesOf hkeeps config step.tree).bind fun properties => ?_
  exact (Task.absorbs_report rfl).bind fun _ => Task.absorbs_pure _

end Classification

namespace Generator

variable {g : Generator} {roots : List (Tree Layer)}

/-- The failures that a generation meets: those of the host, and the defaults that there is no room
for. -/
def failuresMet (g : Generator) (host : Host σ) (roots : List (Tree Layer)) (s : σ) : List Failure :=
  ((g.generate (host.keepingFailures g.memory) roots).run (s, [])).2.1.2.reverse

/-- The reports of a generation name the failures that it meets, in order and with their causes. -/
theorem absorbed_generate (hsettings : g.mistyped = none) (host : Host σ) (roots : List (Tree Layer))
    (s : σ) :
    ((g.generate host roots).run s).2.2.filterMap Event.absorbed? = g.failuresMet host roots s := by
  have hsimulates := simulates_generate (host.simulates_keepingFailures g.memory) g roots
  obtain ⟨-, -, hevents⟩ := hsimulates.run (s := (s, [])) rfl
  rw [← hevents, failuresMet]
  by_cases hroots : roots = []
  · subst hroots
    rfl
  · have habsorbs :
        ((g.generate (host.keepingFailures g.memory) roots { host := (s, []) }).2.events).filterMap
            Event.absorbed? =
          (g.generate (host.keepingFailures g.memory) roots { host := (s, []) }).2.host.2 := by
      rw [generate_of_pruned hsettings (prunedForest_of_typed hsettings hroots _ _),
        prunedForest_eq_of_typed hsettings hroots]
      exact Classification.absorbs_classifyForest
        (host.keepsFailures_remembering g.memory) g.config roots
        { host := { host := (s, []) } } rfl
    exact List.filterMap_reverse.trans (congrArg List.reverse habsorbs)

/-- Every occurrence with values is looked up. -/
theorem mainComponent_mem_asked (hsettings : g.mistyped = none) (host : Host σ) (s : σ) {layer : Layer}
    (hlayer : layer ∈ forestValues roots) (hasks : asksMain layer = true) :
    .mainComponent layer.id ∈ ((g.generate host.recorded roots).run (s, [])).2.1.2 := by
  have hexact := asksFor_generate_of_typed host.tracks_recorded hsettings roots { host := (s, []) }
  have hall := (Classification.mainsAskedAt_inOrder_perm g.config roots).count_eq layer.id
  have hforest := Classification.count_mainsAskedIn g.config roots layer.id
  have hself : 0 < (forestValues roots).countP (asksMainOf layer.id) := by
    refine List.countP_pos_iff.mpr ⟨layer, hlayer, ?_⟩
    rw [asksMainOf, hasks, beq_self_eq_true, Bool.and_self]
  refine List.count_pos_iff.mp ?_
  have hcount :
      ((g.generate host.recorded roots).run (s, [])).2.1.2.count (.mainComponent layer.id) = _ :=
    Lookup.count_of_filterMap_main? hexact layer.id
  rw [hcount, mainsInOrder, hall, hforest]
  exact Nat.add_pos_left hself _

/-- With settings of the right types, a generation is refused if and only if nothing was selected,
and the host is not asked anything then.  Any other selection gives a result, from any host in any
state and with any number of defaults remembered: the layers become elements in their places, which
are pruned, rendered and exported.  It is not that nothing fails: every occurrence with values is
looked up, and the failures that are met are reported with their causes, all of them and nothing
else. -/
theorem generation_refused_iff_nil (hsettings : g.mistyped = none) (host : Host σ)
    (roots : List (Tree Layer)) (s : σ) :
    let generated := ((g.generate host roots).run s).1
    let exported := ((g.generateExport host roots).run s).1
    (generated = .error .nothingSelected ↔ roots = []) ∧
      (exported = .error .nothingSelected ↔ roots = []) ∧
      (roots ≠ [] → ∃ result elements,
        generated = .ok result ∧ exported = .ok (exportForest result.forest) ∧
          List.Forall₂ (Matches (IsElementOf g.config)) roots elements ∧
          result =
            { markup := Markup.render g.config 0 (Markup.ofElements g.config result.forest)
              forest := Pruning.prune g.config false elements
              layerCount := forestSize roots }) ∧
      (∀ cause, generated ≠ .error (.failed cause) ∧ exported ≠ .error (.failed cause)) ∧
      (roots = [] → ∀ asked,
        ((g.generate host.recorded roots).run (s, asked)).2.1 = (s, asked) ∧
          ((g.generateExport host.recorded roots).run (s, asked)).2.1 = (s, asked)) ∧
      (∀ layer ∈ forestValues roots, asksMain layer = true →
        .mainComponent layer.id ∈ ((g.generate host.recorded roots).run (s, [])).2.1.2) ∧
      ((g.generate host roots).run s).2.2.filterMap Event.absorbed? = g.failuresMet host roots s := by
  intro generated exported
  have hgenerated : ∀ refusal, generated = .error refusal →
      roots = [] ∧ refusal = .nothingSelected :=
    fun refusal hrefused => (generate_refused hrefused).of_typed hsettings
  have hexported : ∀ refusal, exported = .error refusal →
      roots = [] ∧ refusal = .nothingSelected :=
    fun refusal hrefused => (generateExport_refused hrefused).of_typed hsettings
  refine ⟨⟨fun h => (hgenerated _ h).1, ?_⟩, ⟨fun h => (hexported _ h).1, ?_⟩, fun hroots => ?_,
    fun cause => ⟨fun h => ?_, fun h => ?_⟩, ?_, fun layer hlayer hasks => ?_,
    absorbed_generate hsettings host roots s⟩
  · rintro rfl
    rfl
  · rintro rfl
    rfl
  · have hpruned := prunedForest_of_typed hsettings hroots host { host := s }
    refine ⟨_, _, generate_of_typed hsettings hroots host { host := s },
      generateExport_of_pruned hpruned, ?_, rfl⟩
    exact Classification.forall₂_classifyForest (host.remembering g.memory) g.config roots _
  · cases (hgenerated _ h).2
  · cases (hexported _ h).2
  · rintro rfl asked
    exact ⟨rfl, rfl⟩
  · exact mainComponent_mem_asked hsettings host s hlayer hasks

/-- A host that knows the component of the occurrence in `askingLayers` and its defaults, and does
not answer in time when it is asked about the component. -/
def patchyHost : Host Unit :=
  HostTable.host
    { mains := .ofList [("1", some "c")]
      defaults := .ofList [("c", .ofList [("size", .string "big")])]
      failing := .ofList [("2", .foreign "TimeoutError" "2")] }

/-- One answer cannot be kept where nothing is remembered and one does not come, and there is a
result. -/
theorem generation_refused_iff_nil_patchyHost :
    ({ memory := 0 } : Generator).mistyped = none ∧
      (∃ result,
        ((Generator.generate { memory := 0 } patchyHost askingLayers).run ()).1 = .ok result ∧
        result.layerCount = 2) ∧
      ((Generator.generate { memory := 0 } patchyHost.recorded askingLayers).run ((), [])).2.1.2 =
        [.defaults "c", .mainComponent "1", .defaults "2"] ∧
      ((Generator.generate { memory := 0 } patchyHost askingLayers).run ()).2.2.filterMap
        Event.absorbed? = [.foreign "TimeoutError" "2", .entryTooLarge] := by
  obtain ⟨-, -, hresult, -⟩ :=
    generation_refused_iff_nil (g := { memory := 0 }) rfl patchyHost askingLayers ()
  obtain ⟨result, elements, hgenerated, -, -, hsame⟩ := hresult (List.cons_ne_nil _ _)
  exact ⟨rfl, ⟨result, hgenerated, congrArg Generated.layerCount hsame⟩, by decide +kernel,
    by decide +kernel⟩

end Generator

end LayerMarkup
