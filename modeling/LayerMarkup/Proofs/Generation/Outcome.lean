import LayerMarkup.Proofs.Classification.Settled
import LayerMarkup.Proofs.Generation.Stages

/-!
# What comes of a generation

A generation is refused for two reasons: nothing was selected, or a setting of the wrong type
stopped a stage (`generate_refused`, `generateExport_refused`).  No lookup is a reason.  With
settings of the right types every selection that is not empty gives the markup and the export of its
pruned elements (`generate_of_typed`, `generateExport_of_pruned`), and the host is left where the
classification leaves it.
-/

namespace LayerMarkup

variable {σ : Type}

namespace Generator

variable {g : Generator} {host : Host σ} {roots : List (Tree Layer)} {refusal : Refusal}
  {p : Progress σ}

/-- The elements of a selection before pruning. -/
def classified (g : Generator) (host : Host σ) (roots : List (Tree Layer)) :
    Task σ (List (Tree Element)) :=
  Task.withMemory (Classification.classifyForest (host.remembering g.memory) g.config roots)

/-- Every layer becomes an element, however the lookups went. -/
theorem forestSize_classified (g : Generator) (host : Host σ) (roots : List (Tree Layer))
    (p : Progress σ) : Tree.forestSize (g.classified host roots p).1 = Tree.forestSize roots :=
  Tree.forestSize_mapIndexedForest _ 0 roots

/-- Where the answers of the host are settled, so are the elements, remembered defaults or not. -/
theorem classified_of_follows {Good : σ → Prop} {answers : Answers}
    (hfollows : host.Follows Good answers) (roots : List (Tree Layer)) :
    (g.classified host roots).Gives Good
      (Tree.mapSubtreesForest (Classification.elementAt (answers.remembered g.memory) g.config)
        roots) :=
  (Classification.gives_classifyForest (hfollows.remembering g.memory) roots).withMemory

/-- Where the answers depend on the ids only, they may be taken from any state of the host. -/
theorem classified_of_dependsOnId (g : Generator) (hanswers : host.DependsOnId)
    (roots : List (Tree Layer)) (s t : σ) :
    (g.classified host roots { host := t }).1 = Tree.mapSubtreesForest
      (Classification.elementAt ((host.answersIn s).remembered g.memory) g.config) roots :=
  (classified_of_follows (hanswers.follows s) roots { host := t } trivial).1

/-- Nothing is done about an empty selection. -/
theorem prunedForest_nil (g : Generator) (host : Host σ) (p : Progress σ) :
    g.prunedForest host [] p = (.error .nothingSelected, p) := rfl

/-! ## Stages and refusals -/

section CarryOut

variable {α : Type} {stages : Attempt σ α} {q : Progress σ}

theorem carryOut_of_ok {a : α} (hok : stages.run p = (.ok a, q)) : carryOut stages p = (.ok a, q) := by
  rw [carryOut, Task.bind_apply, hok]
  rfl

theorem carryOut_of_error {cause : Failure} (hfails : (stages.run p).1 = .error cause) :
    (carryOut stages p).1 = .error (.failed cause) := by
  rw [carryOut, Task.bind_apply, hfails]
  rfl

end CarryOut

/-- Why a generation may be refused. -/
inductive Refuses (g : Generator) (roots : List (Tree Layer)) : Refusal → Prop
  | nothingSelected (hnil : roots = []) : Refuses g roots .nothingSelected
  | stopped {cause : Failure} (hstops : g.Stops cause) : Refuses g roots (.failed cause)

/-- Stages that run as a task are refused only with the setting of the wrong type as the cause. -/
theorem carryOut_refused {α : Type} {stages : Attempt σ α} {task : Task σ α}
    (hstages : g.RunsAs stages task) (hrefused : (carryOut stages p).1 = .error refusal) :
    g.Refuses roots refusal := by
  rcases hstages p with hsame | ⟨cause, hstops, hfails⟩
  · rw [carryOut_of_ok hsame] at hrefused
    cases hrefused
  · rw [carryOut_of_error hfails] at hrefused
    cases hrefused
    exact .stopped hstops

/-- The elements of a selection before and after pruning. -/
def elementsOf (g : Generator) (host : Host σ) (roots : List (Tree Layer)) :
    Task σ (List (Tree Element) × List (Tree Element)) := do
  let classified ← g.classified host roots
  return (classified, Pruning.prune g.config false classified)

theorem runsAs_prunedElements (g : Generator) (host : Host σ) (roots : List (Tree Layer)) :
    g.RunsAs (g.prunedElements host roots) (g.elementsOf host roots) := by
  refine (Choices.runsAs_classifyForest _ roots).withMemory.bind fun classified => ?_
  exact .bind_yields (Choices.yields_prune false classified) (Choices.runsAs_pure _)

theorem prunedForest_of_ne_nil (hroots : roots ≠ []) (host : Host σ) (p : Progress σ) :
    g.prunedForest host roots p =
      (((carryOut (g.prunedElements host roots) p).1.map fun (classified, pruned) =>
          (pruned, Tree.forestSize classified)),
        (carryOut (g.prunedElements host roots) p).2) := by
  have hsome : roots.isEmpty = false := List.isEmpty_eq_false_iff.mpr hroots
  simp only [prunedForest, hsome]
  rfl

theorem prunedForest_refused (hrefused : (g.prunedForest host roots p).1 = .error refusal) :
    g.Refuses roots refusal := by
  by_cases hroots : roots = []
  · subst hroots
    rw [prunedForest_nil] at hrefused
    cases hrefused
    exact .nothingSelected rfl
  · rw [prunedForest_of_ne_nil hroots] at hrefused
    cases hcarried : (carryOut (g.prunedElements host roots) p).1 with
    | ok elements =>
      rw [hcarried] at hrefused
      cases hrefused
    | error earlier =>
      rw [hcarried] at hrefused
      cases hrefused
      exact carryOut_refused (g.runsAs_prunedElements host roots) hcarried

theorem generate_of_refused (hrefused : (g.prunedForest host roots p).1 = .error refusal) :
    (g.generate host roots p).1 = .error refusal := by
  rw [generate, Task.bind_apply, hrefused]
  rfl

theorem generate_refused (hrefused : (g.generate host roots p).1 = .error refusal) :
    g.Refuses roots refusal := by
  rcases hpruned : g.prunedForest host roots p with ⟨outcome, q⟩
  cases outcome with
  | error earlier =>
    rw [generate_of_refused (congrArg Prod.fst hpruned)] at hrefused
    cases hrefused
    exact prunedForest_refused (congrArg Prod.fst hpruned)
  | ok pruned =>
    obtain ⟨forest, layerCount⟩ := pruned
    have hrender := (Choices.yields_render (c := g.toChoices) 0
      (Markup.ofElements g.config forest)).runsAs (σ := σ)
    rw [generate, Task.bind_apply, hpruned] at hrefused
    rcases hcarried : carryOut (liftM (g.render 0 (Markup.ofElements g.config forest))) q
      with ⟨rendered, r⟩
    simp only [Task.bind_apply, hcarried] at hrefused
    cases rendered with
    | error earlier =>
      cases hrefused
      exact carryOut_refused hrender (congrArg Prod.fst hcarried)
    | ok markup => cases hrefused

theorem generateExport_of_pruned {pruned : List (Tree Element) × Nat}
    (hpruned : (g.prunedForest host roots p).1 = .ok pruned) :
    (g.generateExport host roots p).1 = .ok (exportForest pruned.1) := by
  rw [generateExport, Task.bind_apply, hpruned]
  rfl

theorem generateExport_refused (hrefused : (g.generateExport host roots p).1 = .error refusal) :
    g.Refuses roots refusal := by
  cases hpruned : (g.prunedForest host roots p).1 with
  | error earlier =>
    rw [generateExport, Task.bind_apply, hpruned] at hrefused
    cases hrefused
    exact prunedForest_refused hpruned
  | ok pruned =>
    rw [generateExport_of_pruned hpruned] at hrefused
    cases hrefused

section Typed

variable (hsettings : g.mistyped = none)

include hsettings

/-- With settings of the right types, only an empty selection is refused. -/
theorem Refuses.of_typed (hrefuses : g.Refuses roots refusal) :
    roots = [] ∧ refusal = .nothingSelected := by
  cases hrefuses with
  | nothingSelected hnil => exact ⟨hnil, rfl⟩
  | stopped hstops => exact absurd hstops (Choices.not_stops hsettings _)

/-- With settings of the right types, a selection is classified and pruned, whatever the host
does. -/
theorem prunedForest_eq_of_typed (hroots : roots ≠ []) (host : Host σ) (p : Progress σ) :
    g.prunedForest host roots p =
      (.ok (Pruning.prune g.config false (g.classified host roots p).1, Tree.forestSize roots),
        (g.classified host roots p).2) := by
  have hstages := (g.runsAs_prunedElements host roots).eq hsettings p
  rw [prunedForest_of_ne_nil hroots, carryOut_of_ok hstages, ← forestSize_classified g host roots p]
  rfl

theorem prunedForest_of_typed (hroots : roots ≠ []) (host : Host σ) (p : Progress σ) :
    (g.prunedForest host roots p).1 =
      .ok (Pruning.prune g.config false (g.classified host roots p).1, Tree.forestSize roots) := by
  rw [prunedForest_eq_of_typed hsettings hroots]

/-- A pruned forest is rendered. -/
theorem generate_of_pruned {forest : List (Tree Element)} {layerCount : Nat}
    (hpruned : (g.prunedForest host roots p).1 = .ok (forest, layerCount)) :
    g.generate host roots p =
      (.ok { markup := Markup.render g.config 0 (Markup.ofElements g.config forest)
             forest
             layerCount },
        (Task.report (.generated roots.length layerCount forest.length)
          (g.prunedForest host roots p).2).2) := by
  have hrender := (Choices.yields_render (c := g.toChoices) 0
    (Markup.ofElements g.config forest)).eq hsettings
  rw [generate, Task.bind_apply, hpruned]
  simp only [hrender]
  rfl

/-- With settings of the right types, a selection gives the markup of its pruned elements. -/
theorem generate_of_typed (hroots : roots ≠ []) (host : Host σ) (p : Progress σ) :
    let forest := Pruning.prune g.config false (g.classified host roots p).1
    (g.generate host roots p).1 =
      .ok { markup := Markup.render g.config 0 (Markup.ofElements g.config forest)
            forest
            layerCount := Tree.forestSize roots } := by
  rw [generate_of_pruned hsettings (prunedForest_of_typed hsettings hroots host p)]

end Typed

/-- A host that fails at every question. -/
def brokenHost : Host Unit :=
  .ofAnswers (fun id => .error (.foreign "TimeoutError" id))
    (fun id => .error (.foreign "KeyError" id))

/-- An occurrence with a value to look up, and a component below it with another. -/
def askingLayers : List (Tree Layer) :=
  [.node { id := "1", name := "UCard", kind := .occurrence,
           properties := .ofList [("size", .string "big")] }
    [.node { id := "2", name := "UIcon", kind := .component,
             variants := .ofList [("state", .string "on")] } []]]

end Generator

end LayerMarkup
