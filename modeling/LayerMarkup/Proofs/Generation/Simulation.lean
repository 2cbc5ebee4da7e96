import LayerMarkup.Generation
import LayerMarkup.Proofs.Host.Simulation

/-!
# Generation from simulated hosts

A generation knows of its host only what it is answered.  From two hosts that give the same answers
it comes to the same result, or is refused for the same reason, and makes the same reports
(`simulates_generate`).  So what is recorded of the questions to a host is what the host itself is
asked (`run_recorded`).
-/

namespace LayerMarkup

variable {σ τ : Type} {R : σ → τ → Prop} {host : Host σ} {other : Host τ}

namespace Choices

theorem simulates_componentDefaults (hsimulates : host.Simulates R other) (id : String) :
    (Attempt.componentDefaults host id).Simulates R (Attempt.componentDefaults other id) :=
  Attempt.simulates_absorb (hsimulates.defaults id) _

theorem simulates_occurrenceDefaults (hsimulates : host.Simulates R other) (layer : Layer) :
    (Attempt.occurrenceDefaults host layer).Simulates R (Attempt.occurrenceDefaults other layer) := by
  refine (Attempt.simulates_absorb (hsimulates.mainComponent layer.id) _).bind fun main => ?_
  rcases main with _ | _ | main
  · exact Attempt.simulates_pure none
  · exact (Attempt.simulates_report _).bind fun _ => Attempt.simulates_pure none
  · exact simulates_componentDefaults hsimulates main.id

theorem simulates_resolve (hsimulates : host.Simulates R other) (c : Choices) (layer : Layer) :
    (c.resolve host layer).Simulates R (c.resolve other layer) := by
  unfold resolve
  cases layer.kind with
  | occurrence =>
    by_cases hempty : layer.properties.isEmpty = true
    · simp only [hempty]
      exact Attempt.simulates_pure _
    · simp only [hempty]
      exact (simulates_occurrenceDefaults hsimulates layer).bind fun _ => Attempt.simulates_lift _
  | component =>
    by_cases hempty : layer.variants.isEmpty = true
    · simp only [hempty]
      exact Attempt.simulates_pure _
    · simp only [hempty]
      exact (simulates_componentDefaults hsimulates layer.id).bind fun _ => Attempt.simulates_lift _
  | text | frame | group | section_ | rectangle | componentSet | other => exact Attempt.simulates_pure _

theorem simulates_propertiesOf (hsimulates : host.Simulates R other) (c : Choices) (t : Tree Layer) :
    (c.propertiesOf host t).Simulates R (c.propertiesOf other t) := by
  obtain ⟨layer, children⟩ := t
  refine (simulates_resolve hsimulates c layer).bind fun own => ?_
  by_cases hkind : layer.kind = .occurrence
  · simp only [hkind, if_true]
    refine (Attempt.simulates_lift _).bind fun holder? => ?_
    cases holder? with
    | none => exact Attempt.simulates_pure own
    | some holder =>
      refine (simulates_resolve hsimulates c holder).bind fun further => ?_
      exact (Attempt.simulates_report _).bind fun _ => Attempt.simulates_pure _
  · simp only [hkind, if_false]
    exact Attempt.simulates_pure own

theorem simulates_classifyStep (hsimulates : host.Simulates R other) (c : Choices) (step : Step Layer) :
    (c.classifyStep host step).Simulates R (c.classifyStep other step) := by
  refine (simulates_propertiesOf hsimulates c step.tree).bind fun properties => ?_
  refine (Attempt.simulates_lift _).bind fun e => ?_
  exact (Attempt.simulates_report _).bind fun _ => Attempt.simulates_pure e

theorem simulates_takeStep (hsimulates : host.Simulates R other) (c : Choices)
    (roots : List (Tree Layer)) (record : Interruption.Record Element) (step : Step Layer) :
    Task.Simulates R (Interruption.takeStep (c.classifyStep host) roots record step)
      (Interruption.takeStep (c.classifyStep other) roots record step) := by
  rw [Interruption.takeStep, Interruption.takeStep]
  split
  · refine Task.Simulates.bind (simulates_classifyStep hsimulates c step) fun outcome => ?_
    cases outcome with
    | ok e => exact Task.simulates_pure _
    | error cause => exact Task.simulates_pure _
  · exact Task.simulates_pure record

theorem simulates_classifyForest (hsimulates : host.Simulates R other) (c : Choices)
    (roots : List (Tree Layer)) :
    (c.classifyForest host roots).Simulates R (c.classifyForest other roots) := by
  refine Attempt.Simulates.bind ?_ fun classified => Attempt.simulates_pure _
  refine Task.Simulates.bind ?_ fun record => ?_
  · exact Task.Simulates.foldlM (simulates_takeStep hsimulates c roots) _ _
  · split
    · exact Task.simulates_pure _
    · exact Task.simulates_pure _

end Choices

namespace Generator

theorem simulates_carryOut {α : Type} {stages : Attempt σ α} {others : Attempt τ α}
    (hstages : stages.Simulates R others) : (carryOut stages).Simulates R (carryOut others) := by
  refine Task.Simulates.bind hstages fun outcome => ?_
  cases outcome with
  | ok a => exact Task.simulates_pure _
  | error cause => exact (Task.simulates_report _).bind fun _ => Task.simulates_pure _

theorem simulates_prunedElements (hsimulates : host.Simulates R other) (g : Generator)
    (roots : List (Tree Layer)) :
    (g.prunedElements host roots).Simulates R (g.prunedElements other roots) := by
  have hclassify := Choices.simulates_classifyForest (hsimulates.remembering g.memory) g.toChoices roots
  refine hclassify.withMemory.bind fun classified => ?_
  exact (Attempt.simulates_lift _).bind fun pruned => Attempt.simulates_pure _

theorem simulates_prunedForest (hsimulates : host.Simulates R other) (g : Generator)
    (roots : List (Tree Layer)) :
    (g.prunedForest host roots).Simulates R (g.prunedForest other roots) := by
  unfold prunedForest
  cases roots with
  | nil => exact Task.simulates_pure _
  | cons t ts =>
    exact (simulates_carryOut (simulates_prunedElements hsimulates g (t :: ts))).bind fun _ =>
      Task.simulates_pure _

/-- A generation from a host that simulates another goes as from the other. -/
theorem simulates_generate (hsimulates : host.Simulates R other) (g : Generator)
    (roots : List (Tree Layer)) : (g.generate host roots).Simulates R (g.generate other roots) := by
  refine (simulates_prunedForest hsimulates g roots).bind fun pruned => ?_
  cases pruned with
  | error refusal => exact Task.simulates_pure _
  | ok pruned =>
    refine (simulates_carryOut (Attempt.simulates_lift _)).bind fun rendered => ?_
    cases rendered with
    | error refusal => exact Task.simulates_pure _
    | ok markup => exact (Task.simulates_report _).bind fun _ => Task.simulates_pure _

theorem simulates_generateExport (hsimulates : host.Simulates R other) (g : Generator)
    (roots : List (Tree Layer)) :
    (g.generateExport host roots).Simulates R (g.generateExport other roots) := by
  refine (simulates_prunedForest hsimulates g roots).bind fun pruned => ?_
  cases pruned with
  | error refusal => exact Task.simulates_pure _
  | ok pruned => exact Task.simulates_pure _

/-- That the questions to a host are recorded changes neither results nor reports, nor the host. -/
theorem run_recorded (g : Generator) (host : Host σ) (roots : List (Tree Layer)) (s : σ)
    (asked : List Lookup) :
    let generated := (g.generate host.recorded roots).run (s, asked)
    let exported := (g.generateExport host.recorded roots).run (s, asked)
    (generated.1, generated.2.1.1, generated.2.2) = (g.generate host roots).run s ∧
      (exported.1, exported.2.1.1, exported.2.2) = (g.generateExport host roots).run s := by
  intro generated exported
  obtain ⟨hresult, hhost, hevents⟩ :=
    (simulates_generate host.simulates_recorded g roots).run (s := (s, asked)) rfl
  obtain ⟨hresult', hhost', hevents'⟩ :=
    (simulates_generateExport host.simulates_recorded g roots).run (s := (s, asked)) rfl
  exact ⟨Prod.ext hresult (Prod.ext hhost hevents), Prod.ext hresult' (Prod.ext hhost' hevents')⟩

end Generator

end LayerMarkup
