import LayerMarkup.Generation

/-!
# Panels

A panel talks to the program in small messages and gets at most one reply to each: what is selected,
the markup of the selection, its export, or an error.  A message may bring its own start of tags,
which counts for that message alone.
-/

namespace LayerMarkup

/-- What a panel works with. -/
structure Panel (σ : Type) where
  host : Host σ
  selection : List (Tree Layer)
  config : Config := {}
  mistyped : Option Mistyped := none

/-- A selected layer as the panel lists it. -/
structure SelectedLayer where
  id : String
  name : String
  type : String
  visible : Bool
  locked : Bool
deriving DecidableEq

/-- A reply to a message. -/
inductive Reply where
  | selectionUpdate (selection : List SelectedLayer)
  | dataResult (markup : String)
  | jsonResult (forest : Json)
  | error (text : String)

/-- A message that is no object has no type. -/
structure NotAMessage where
  kind : String

namespace Panel

variable {σ : Type}

/-- A layer as the panel lists it, by the type that the tool reports or else by its kind in
capitals. -/
def selectedLayer (layer : Layer) : SelectedLayer where
  id := layer.id
  name := layer.name
  type := if layer.hostType.isEmpty then layer.kind.word.map Char.toUpper else layer.hostType
  visible := layer.visible
  locked := layer.locked

/-- The configuration for a message: an empty start of tags keeps the panel's own. -/
def configFor (panel : Panel σ) (start : Option Json) : Except Failure Config :=
  match start.bind Json.nonEmpty? with
  | none => .ok panel.config
  | some (.string s) => (panel.config.withTagStart (some s)).mapError .config
  | some other => .error (.textExpected other.typeName)

/-- Answers a message that asks for a generation. -/
def generate (panel : Panel σ) (start : Option Json) (asExport : Bool) : Task σ Reply := do
  match panel.configFor start with
  | .error cause =>
    Task.report .unexpectedFailure
    return .error (Refusal.failed cause).message
  | .ok config =>
    let generator : Generator := { config, mistyped := panel.mistyped }
    let outcome ←
      if asExport then do
        let exported ← generator.generateExport panel.host panel.selection
        pure (exported.map Reply.jsonResult)
      else do
        let generated ← generator.generate panel.host panel.selection
        pure (generated.map fun result => Reply.dataResult result.markup)
    match outcome with
    | .ok reply => return reply
    | .error refusal =>
      Task.report (.refused refusal)
      return .error refusal.message

/-- Answers a message by its fields; a message of an unknown type gets no reply. -/
def handleFields (panel : Panel σ) (message : List (String × Json)) : Task σ (Option Reply) := do
  match (Json.lookup "type" message).getD .null with
  | .string "init" | .string "refresh" =>
    return some (.selectionUpdate (panel.selection.map fun root => selectedLayer root.value))
  | .string "generateData" =>
    let reply ← panel.generate (Json.lookup "prefix" message) false
    return some reply
  | .string "generateJson" =>
    let reply ← panel.generate (Json.lookup "prefix" message) true
    return some reply
  | other =>
    Task.report (.unknownMessage other)
    return none

/-- Answers a message, which must be an object. -/
def handle (panel : Panel σ) : Json → Task σ (Except NotAMessage (Option Reply))
  | .object message => do
    let reply ← panel.handleFields message
    return .ok reply
  | other => return .error { kind := other.typeName }

end Panel

end LayerMarkup
