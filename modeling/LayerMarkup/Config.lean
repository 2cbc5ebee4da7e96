import LayerMarkup.Name
import LayerMarkup.Text.Basic

/-!
# Configuration

The naming conventions and layout choices of a run.  A configuration holds only what was checked:
its start of tags is a run of ASCII letters and digits, its widths are natural numbers, and the two
names that must not be empty are not.  `Settings` are the same choices before the check, and
`Settings.check` names the first of them that is refused.
-/

namespace LayerMarkup

/-- Choices that were checked. -/
structure Config where
  /-- The common start of all tags. -/
  tagStart : String := "U"
  /-- Components are kept only if their names begin with the start of tags. -/
  matchStart : Bool := true
  /-- The end of the names of layers that hold further properties of the occurrence around them. -/
  propertiesSuffix : String := "_properties"
  /-- The beginnings of private names and keys. -/
  privateMarkers : List String := ["_", "."]
  /-- The mark inside names and keys of inner occurrences. -/
  instanceMarker : String := "Instance"
  /-- The mark inside names of components that only stand for what they hold. -/
  referenceToken : String := "reference"
  templateName : String := "template"
  /-- The property that names the slot of a template. -/
  slotKey : String := "slot"
  /-- The values that count as defaults where no defaults are known. -/
  sentinels : List String := ["default", "none", "off", "basic", "false"]
  containerTag : String := "div"
  indentWidth : Nat := 2
  /-- The most attributes that a tag keeps on its first line. -/
  maxInlineAttributes : Option Nat := none
  keepEmptyContainers : Bool := false
  tagStart_tagChars : tagStart.toList.all Name.isTagChar = true := by decide
  propertiesSuffix_ne : propertiesSuffix ≠ "" := by decide
  templateName_ne : templateName ≠ "" := by decide

/-- Why a choice is refused. -/
inductive ConfigError where
  | tagStart (found : String)
  | indentWidth (found : Int)
  | maxInlineAttributes (found : Int)
  | emptyPropertiesSuffix
  | emptyTemplateName
deriving DecidableEq

def ConfigError.message : ConfigError → String
  | tagStart found => "prefix must be ASCII alphanumeric, got " ++ Text.quoted found
  | indentWidth found => "indent_width must be >= 0, got " ++ toString found
  | maxInlineAttributes found => "max_inline_attributes must be None or >= 0, got " ++ toString found
  | emptyPropertiesSuffix => "properties_suffix must not be empty"
  | emptyTemplateName => "template_name must not be empty"

/-- Choices before the check. -/
structure Settings where
  tagStart : String := "U"
  matchStart : Bool := true
  propertiesSuffix : String := "_properties"
  privateMarkers : List String := ["_", "."]
  instanceMarker : String := "Instance"
  referenceToken : String := "reference"
  templateName : String := "template"
  slotKey : String := "slot"
  sentinels : List String := ["default", "none", "off", "basic", "false"]
  containerTag : String := "div"
  indentWidth : Int := 2
  maxInlineAttributes : Option Int := none
  keepEmptyContainers : Bool := false

/-- The choices as a configuration, or the first one that is refused. -/
def Settings.check (s : Settings) : Except ConfigError Config :=
  if hStart : s.tagStart.toList.all Name.isTagChar = true then
    if s.indentWidth < 0 then .error (.indentWidth s.indentWidth)
    else
      match s.maxInlineAttributes.filter (· < 0) with
      | some found => .error (.maxInlineAttributes found)
      | none =>
        if hSuffix : s.propertiesSuffix = "" then .error .emptyPropertiesSuffix
        else if hName : s.templateName = "" then .error .emptyTemplateName
        else
          .ok { tagStart := s.tagStart
                matchStart := s.matchStart
                propertiesSuffix := s.propertiesSuffix
                privateMarkers := s.privateMarkers
                instanceMarker := s.instanceMarker
                referenceToken := s.referenceToken
                templateName := s.templateName
                slotKey := s.slotKey
                sentinels := s.sentinels
                containerTag := s.containerTag
                indentWidth := s.indentWidth.toNat
                maxInlineAttributes := s.maxInlineAttributes.map Int.toNat
                keepEmptyContainers := s.keepEmptyContainers
                tagStart_tagChars := hStart
                propertiesSuffix_ne := hSuffix
                templateName_ne := hName }
  else .error (.tagStart s.tagStart)

namespace Config

instance : Inhabited Config := ⟨{}⟩

/-- The configuration with another start of tags; no start or an empty one keeps the old. -/
def withTagStart (c : Config) (start : Option String) : Except ConfigError Config :=
  match start with
  | none => .ok c
  | some s =>
    if s = "" then .ok c
    else if h : s.toList.all Name.isTagChar = true then
      .ok { c with tagStart := s, tagStart_tagChars := h }
    else .error (.tagStart s)

/-- Private keys and keys of inner occurrences are never shown. -/
def skipsKey (c : Config) (key : String) : Bool :=
  Name.isPrivate key c.privateMarkers || Text.contains key c.instanceMarker

/-- Names of private layers, of inner occurrences and of layers that hold properties. -/
def ignoresName (c : Config) (name : String) : Bool :=
  c.skipsKey name || Text.endsWith name c.propertiesSuffix

def isTemplateName (c : Config) (name : String) : Bool :=
  Text.lower name == Text.lower c.templateName

def isReferenceName (c : Config) (name : String) : Bool := Text.contains name c.referenceToken

/-- The name begins with the start of tags, large and small letters being the same, or need not. -/
def matchesStart (c : Config) (name : String) : Bool :=
  !c.matchStart || Text.startsWith (Text.lower name) (Text.lower c.tagStart)

def isSentinel (c : Config) (text : String) : Bool := c.sentinels.contains text

end Config

end LayerMarkup
