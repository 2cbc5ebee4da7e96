import LayerMarkup.Classification
import LayerMarkup.Host.Recent
import LayerMarkup.Markup.OfElements

/-!
# Generation

From selected layers to markup or to an export, in one go: classify, prune, and render or export.
An empty selection is refused before the host is asked anything.  A stage that fails is reported,
and the selection refused with the cause.  Defaults are remembered within one generation and
forgotten after it.

Layers may be nested to any depth.  A machine whose stack ends before the nesting does is not told
of here.
-/

namespace LayerMarkup

/-- What a generation works with. -/
structure Generator extends Choices where
  /-- The number of components whose defaults are remembered. -/
  memory : Int := 256

/-- Generated markup, the elements that it shows and the number of layers that were classified. -/
structure Generated where
  markup : String
  forest : List (Tree Element)
  layerCount : Nat

namespace Generator

variable {σ α : Type}

/-- The outcome of stages.  A failure is reported, and is the reason to refuse the selection. -/
def carryOut (stages : Attempt σ α) : Task σ (Except Refusal α) := do
  match ← stages.run with
  | .ok result => return .ok result
  | .error cause =>
    Task.report .generationFailed
    return .error (.failed cause)

/-- Classifies and prunes a selection: the elements before pruning and those that are left. -/
def prunedElements (g : Generator) (host : Host σ) (roots : List (Tree Layer)) :
    Attempt σ (List (Tree Element) × List (Tree Element)) := do
  let classified ← Attempt.withMemory (g.classifyForest (host.remembering g.memory) roots)
  let pruned ← g.prune false classified
  return (classified, pruned)

/-- The pruned elements of a selection and the number of layers in it. -/
def prunedForest (g : Generator) (host : Host σ) (roots : List (Tree Layer)) :
    Task σ (Except Refusal (List (Tree Element) × Nat)) := do
  if roots.isEmpty then return .error .nothingSelected
  let outcome ← carryOut (g.prunedElements host roots)
  return outcome.map fun (classified, pruned) => (pruned, Tree.forestSize classified)

/-- The markup of a selection. -/
def generate (g : Generator) (host : Host σ) (roots : List (Tree Layer)) :
    Task σ (Except Refusal Generated) := do
  match ← g.prunedForest host roots with
  | .error refusal => return .error refusal
  | .ok (forest, layerCount) =>
    match ← carryOut (liftM (g.render 0 (Markup.ofElements g.config forest))) with
    | .error refusal => return .error refusal
    | .ok markup =>
      Task.report (.generated roots.length layerCount forest.length)
      return .ok { markup, forest, layerCount }

/-- The pruned elements of a selection as JSON. -/
def generateExport (g : Generator) (host : Host σ) (roots : List (Tree Layer)) :
    Task σ (Except Refusal Json) := do
  match ← g.prunedForest host roots with
  | .error refusal => return .error refusal
  | .ok (forest, _) => return .ok (exportForest forest)

end Generator

end LayerMarkup
