import LayerMarkup.Host.Basic
import LayerMarkup.Layer
import LayerMarkup.Property.Difference

/-!
# Resolution of properties

The properties of a layer that are worth showing.  An occurrence is compared with the defaults of
its main component, a component with its own.  A lookup that fails is reported, and the layer goes
on as if no defaults were known.

Resolution is told twice: as an attempt whose lookups may fail and whose settings may have wrong
types (`Choices.resolve`), and as a task that goes by what became of each lookup (`resolve`).
-/

namespace LayerMarkup.Property

variable {σ : Type}

/-- The defaults of a component, if the host knows them. -/
def componentDefaults (host : Host σ) (id : String) : Task σ (Option (Mapping Json)) := do
  match ← Task.ask (host.defaults id) with
  | .ok defaults => return some defaults
  | .error cause =>
    Task.report (.defaultsLookupFailed id cause)
    return none

/-- The defaults of the component that an occurrence was made from, if the host knows them. -/
def occurrenceDefaults (host : Host σ) (layer : Layer) : Task σ (Option (Mapping Json)) := do
  match ← Task.ask (host.mainComponent layer.id) with
  | .ok (some main) => componentDefaults host main.id
  | .ok none =>
    Task.report (.noMainComponent layer.name)
    return none
  | .error cause =>
    Task.report (.mainLookupFailed layer.name cause)
    return none

/-- The properties of a layer that differ from their defaults.  Only occurrences and components have
current values, and without any the host is not asked. -/
def resolve (host : Host σ) (config : Config) (layer : Layer) : Task σ (Mapping PropertyValue) := do
  match layer.kind with
  | .occurrence =>
    if layer.properties.isEmpty then return .empty
    let defaults ← occurrenceDefaults host layer
    return difference config layer.properties defaults
  | .component =>
    if layer.variants.isEmpty then return .empty
    let defaults ← componentDefaults host layer.id
    return difference config layer.variants defaults
  | _ => return .empty

end LayerMarkup.Property

namespace LayerMarkup

variable {σ : Type}

namespace Attempt

/-- The defaults of a component.  That there are none to be had is reported, and no failure. -/
def componentDefaults (host : Host σ) (id : String) : Attempt σ (Option (Mapping Json)) :=
  absorb (.defaultsLookupFailed id) (ask (host.defaults id))

/-- The defaults of the component that an occurrence was made from.  Each of the two lookups absorbs
its own failure. -/
def occurrenceDefaults (host : Host σ) (layer : Layer) : Attempt σ (Option (Mapping Json)) := do
  match ← absorb (.mainLookupFailed layer.name) (ask (host.mainComponent layer.id)) with
  | none => return none
  | some none =>
    report (.noMainComponent layer.name)
    return none
  | some (some main) => componentDefaults host main.id

end Attempt

/-- The properties of a layer that differ from their defaults.  Nothing absorbs a failure of the
comparison. -/
def Choices.resolve (c : Choices) (host : Host σ) (layer : Layer) :
    Attempt σ (Mapping PropertyValue) := do
  match layer.kind with
  | .occurrence =>
    if layer.properties.isEmpty then return .empty
    let defaults ← Attempt.occurrenceDefaults host layer
    c.difference layer.properties defaults
  | .component =>
    if layer.variants.isEmpty then return .empty
    let defaults ← Attempt.componentDefaults host layer.id
    c.difference layer.variants defaults
  | _ => return .empty

end LayerMarkup
