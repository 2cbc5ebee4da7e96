import LayerMarkup.Element
import LayerMarkup.Interruption
import LayerMarkup.Property.Resolution

/-!
# Classification

A forest of layers becomes a forest of elements of the same shape.  A text layer carries its
characters, a component its resolved properties.  An occurrence also takes the properties of the
layer below it that is named as holding properties, the nearest in the order of the tree; layers
inside a further occurrence belong to that one.  The host is asked about the layers in the order of
their turns; what it answers settles the properties and nothing else.

With a setting of the wrong type a layer may fail at its turn, and the classification is interrupted
(`Choices.classifyForest`).  Otherwise every layer is finished (`classifyForest`).
-/

namespace LayerMarkup.Classification

variable {σ : Type}

mutual

/-- The first layer of a tree that is named as holding properties, not looking into occurrences. -/
def propertiesLayer? (suffix : String) : Tree Layer → Option Layer
  | .node layer children =>
    if Text.endsWith layer.name suffix then some layer
    else if layer.kind = .occurrence then none
    else firstPropertiesLayer? suffix children

def firstPropertiesLayer? (suffix : String) : List (Tree Layer) → Option Layer
  | [] => none
  | t :: ts =>
    match propertiesLayer? suffix t with
    | some found => some found
    | none => firstPropertiesLayer? suffix ts

end

/-- The properties of a layer, with those of the layer that holds further ones laid over. -/
def propertiesOf (host : Host σ) (config : Config) : Tree Layer → Task σ (Mapping PropertyValue)
  | .node layer children => do
    let own ← Property.resolve host config layer
    if layer.kind = .occurrence then
      match firstPropertiesLayer? config.propertiesSuffix children with
      | none => return own
      | some holder =>
        let further ← Property.resolve host config holder
        Task.report (.merging further.size holder.name layer.name)
        return own.overlay further
    else return own

/-- Resolves the properties of a layer at its turn. -/
def resolveStep (host : Host σ) (config : Config) (step : Step Layer) :
    Task σ (Nat × Mapping PropertyValue) := do
  let properties ← propertiesOf host config step.tree
  let layer := step.tree.value
  Task.report
    (.classified layer.kind layer.name (DataType.ofKind? layer.kind) step.tree.children.length)
  return (step.turn.index, properties)

/-- The properties of the layers of a forest by the numbers of the layers. -/
def resolveForest (host : Host σ) (config : Config) (roots : List (Tree Layer)) :
    Task σ (List (Nat × Mapping PropertyValue)) :=
  (Step.inOrder (Tree.forestSteps 0 0 roots)).mapM (resolveStep host config)

/-- The element of a layer with the properties that were resolved for it. -/
def elementOf (config : Config) (properties : Mapping PropertyValue) (layer : Layer) : Element :=
  let dataType := DataType.ofKind? layer.kind
  { id := layer.id
    name := layer.name
    kind := layer.kind
    dataType
    visible := layer.visible
    text := if dataType = some .text then some (layer.characters.getD "") else none
    properties := if dataType = some .component then some properties else none
    variants :=
      if layer.kind = .componentSet then
        some ((Property.cleanVariants config layer.variants).mapValues .text)
      else none }

/-- The elements of a forest of layers. -/
def classifyForest (host : Host σ) (config : Config) (roots : List (Tree Layer)) :
    Task σ (List (Tree Element)) := do
  let resolved ← resolveForest host config roots
  let propertiesAt (index : Nat) : Mapping PropertyValue := (resolved.lookup index).getD .empty
  return Tree.mapIndexedForest (fun index layer => elementOf config (propertiesAt index) layer) 0 roots

end LayerMarkup.Classification

namespace LayerMarkup.Choices

variable {σ : Type}

mutual

/-- The first layer of a tree that is named as holding properties, not looking into occurrences. -/
def propertiesLayer? (c : Choices) : Tree Layer → Except Failure (Option Layer)
  | .node layer children => do
    c.use .propertiesSuffix
    if Text.endsWith layer.name c.config.propertiesSuffix then return some layer
    else if layer.kind = .occurrence then return none
    else c.firstPropertiesLayer? children

def firstPropertiesLayer? (c : Choices) : List (Tree Layer) → Except Failure (Option Layer)
  | [] => return none
  | t :: ts => do
    match ← c.propertiesLayer? t with
    | some found => return some found
    | none => c.firstPropertiesLayer? ts

end

/-- The properties of a layer, with those of the layer that holds further ones laid over. -/
def propertiesOf (c : Choices) (host : Host σ) : Tree Layer → Attempt σ (Mapping PropertyValue)
  | .node layer children => do
    let own ← c.resolve host layer
    if layer.kind = .occurrence then
      match ← c.firstPropertiesLayer? children with
      | none => return own
      | some holder =>
        let further ← c.resolve host holder
        Attempt.report (.merging further.size holder.name layer.name)
        return own.overlay further
    else return own

/-- The element of a layer with the properties that were resolved for it. -/
def elementOf (c : Choices) (properties : Mapping PropertyValue) (layer : Layer) :
    Except Failure Element := do
  let dataType := DataType.ofKind? layer.kind
  let e : Element :=
    { id := layer.id
      name := layer.name
      kind := layer.kind
      dataType
      visible := layer.visible
      text := if dataType = some .text then some (layer.characters.getD "") else none
      properties := if dataType = some .component then some properties else none }
  if layer.kind = .componentSet then
    let variants ← c.cleanVariants layer.variants
    return { e with variants := some (variants.mapValues .text) }
  else return e

/-- Classifies a layer at its turn. -/
def classifyStep (c : Choices) (host : Host σ) (step : Step Layer) : Attempt σ Element := do
  let properties ← c.propertiesOf host step.tree
  let layer := step.tree.value
  let e ← c.elementOf properties layer
  Attempt.report
    (.classified layer.kind layer.name (DataType.ofKind? layer.kind) step.tree.children.length)
  return e

/-- The elements of a forest of layers, each found by the number of its layer. -/
def classifyForest (c : Choices) (host : Host σ) (roots : List (Tree Layer)) :
    Attempt σ (List (Tree Element)) := do
  let classified ← Interruption.workThrough (c.classifyStep host) roots
  return Tree.mapIndexedForest (fun index _ => (classified.lookup index).getD default) 0 roots

end LayerMarkup.Choices
