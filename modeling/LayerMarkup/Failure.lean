import LayerMarkup.Config

/-!
# Failures

What can go wrong while a forest is turned into markup, by cause.  A failure of a lookup stays with
the layer that asked; what reaches a caller is a refusal: nothing was selected, or a stage failed.

The types of settings are not checked beforehand.  A setting of the wrong type makes a stage fail
where the setting is first used (`Choices.use`).
-/

namespace LayerMarkup

/-- A setting whose value has the wrong type.  It is found when the setting is first used. -/
inductive Mistyped where
  /-- A private marker that is a number. -/
  | privateMarkers
  /-- A properties suffix that is a number. -/
  | propertiesSuffix
  /-- An indent width that is not an integer. -/
  | indentWidth
deriving DecidableEq

def Mistyped.message : Mistyped → String
  | privateMarkers => "startswith first arg must be str or a tuple of str, not int"
  | propertiesSuffix => "endswith first arg must be str or a tuple of str, not int"
  | indentWidth => "can't multiply sequence by non-int of type 'float'"

/-- The cause of a failure. -/
inductive Failure where
  /-- A host has no answer for an id. -/
  | lookup (id reason : String)
  /-- A store with room for nothing was given an entry. -/
  | entryTooLarge
  | mistyped (setting : Mistyped)
  | config (error : ConfigError)
  /-- A value that should have been a text, by the word for its kind. -/
  | textExpected (kind : String)
  /-- A failure of the host's own: the name of its kind and its text. -/
  | foreign (kind text : String)
deriving DecidableEq

namespace Failure

def text : Failure → String
  | lookup id reason => reason ++ ": " ++ Text.quoted id
  | entryTooLarge => "value too large"
  | mistyped setting => setting.message
  | config error => error.message
  | textExpected kind => "expected string or bytes-like object, got '" ++ kind ++ "'"
  | foreign _ text => text

/-- The text of a failure, or the name of its kind where it has no text. -/
def detail (f : Failure) : String :=
  match f with
  | foreign kind "" => kind
  | other => other.text

end Failure

/-- The configuration that a stage works with, and the setting in it that has the wrong type, if one
has. -/
structure Choices where
  config : Config := {}
  mistyped : Option Mistyped := none

namespace Choices

/-- A setting is used, which fails if its type is wrong. -/
def use (c : Choices) (setting : Mistyped) : Except Failure Unit :=
  if c.mistyped = some setting then .error (.mistyped setting) else .ok ()

/-- Private keys and keys of inner occurrences are never shown. -/
def skipsKey (c : Choices) (key : String) : Except Failure Bool := do
  c.use .privateMarkers
  return c.config.skipsKey key

/-- Names of private layers, of inner occurrences and of layers that hold properties.  The end of a
name is looked at only if nothing else speaks against it. -/
def ignoresName (c : Choices) (name : String) : Except Failure Bool := do
  if ← c.skipsKey name then return true
  c.use .propertiesSuffix
  return Text.endsWith name c.config.propertiesSuffix

end Choices

/-- What a caller is told instead of a result. -/
inductive Refusal where
  /-- There is nothing to work on; the text says so. -/
  | emptySelection (text : String)
  | failed (cause : Failure)
deriving DecidableEq

namespace Refusal

/-- The refusal of an empty selection. -/
def nothingSelected : Refusal := emptySelection "Please select at least one node"

def message : Refusal → String
  | emptySelection text => text
  | failed cause => "Failed to generate markup: " ++ cause.detail

end Refusal

end LayerMarkup
