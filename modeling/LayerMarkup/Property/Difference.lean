import LayerMarkup.Failure
import LayerMarkup.Layer

/-!
# Differences from the defaults

A component reports all its property values, those that nobody touched too.  Only values that differ
from the defaults are kept.  Where no defaults are known, values that usually mean "nothing" are
taken for defaults.  Keys are compared and kept without their marks.

Every key is tested against the private markers, so a marker of the wrong type is found at the first
key (`Choices.difference`, `Choices.cleanVariants`).
-/

namespace LayerMarkup.Property

/-- Defaults by stripped key; of several entries with one stripped key the last one counts. -/
def schema (defaults : Mapping Json) : Mapping PropertyValue :=
  .ofList (defaults.entries.map fun entry =>
    (Name.stripKeySuffix entry.1, PropertyValue.coerce entry.2))

/-- A value is the default of its stripped key, or looks like one where no defaults are known. -/
def isUntouched (config : Config) (schema : Option (Mapping PropertyValue)) (key : String)
    (value : PropertyValue) : Bool :=
  match schema with
  | none => config.isSentinel value.word
  | some known => known.get? key == some value

/-- The values that differ from the defaults, by stripped key. -/
def difference (config : Config) (current : Mapping Json) (defaults : Option (Mapping Json)) :
    Mapping PropertyValue :=
  let known := defaults.map schema
  current.entries.foldl
    (fun resolved entry =>
      let key := Name.stripKeySuffix entry.1
      let value := PropertyValue.coerce entry.2
      if config.skipsKey key || isUntouched config known key value then resolved
      else resolved.insert key value)
    .empty

/-- The text that a value of a document is compared with sentinels by: a switch counts as the text
of its position. -/
def sentinelText : Json → String
  | .bool b => PropertyValue.flagWord b
  | other => other.display

def isSentinelValue (config : Config) (value : Json) : Bool := config.isSentinel (sentinelText value)

/-- The variant values that mean something, as texts, by stripped key. -/
def cleanVariants (config : Config) (variants : Mapping Json) : Mapping String :=
  variants.entries.foldl
    (fun cleaned entry =>
      let key := Name.stripKeySuffix entry.1
      if config.skipsKey key || isSentinelValue config entry.2 then cleaned
      else cleaned.insert key entry.2.display)
    .empty

end LayerMarkup.Property

namespace LayerMarkup.Choices

/-- The values that differ from the defaults, by stripped key. -/
def difference (c : Choices) (current : Mapping Json) (defaults : Option (Mapping Json)) :
    Except Failure (Mapping PropertyValue) :=
  let known := defaults.map Property.schema
  current.entries.foldlM
    (fun resolved entry => do
      let key := Name.stripKeySuffix entry.1
      let value := PropertyValue.coerce entry.2
      if ← c.skipsKey key then return resolved
      else if Property.isUntouched c.config known key value then return resolved
      else return resolved.insert key value)
    .empty

/-- The variant values that mean something, as texts, by stripped key. -/
def cleanVariants (c : Choices) (variants : Mapping Json) : Except Failure (Mapping String) :=
  variants.entries.foldlM
    (fun cleaned entry => do
      let key := Name.stripKeySuffix entry.1
      if ← c.skipsKey key then return cleaned
      else if Property.isSentinelValue c.config entry.2 then return cleaned
      else return cleaned.insert key entry.2.display)
    .empty

end LayerMarkup.Choices
