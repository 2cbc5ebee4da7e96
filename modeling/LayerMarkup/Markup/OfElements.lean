import LayerMarkup.Markup.Render
import LayerMarkup.Pruning

/-!
# The markup of elements

Each element becomes one tag.  A component is named after its layer, or is a template if it fills a
slot, and its properties are its attributes, its variants laid over them.  Any other element is a
container with its name as its class; a text is bare.
-/

namespace LayerMarkup.Markup

/-- The name of the tag of a template that fills a slot. -/
def templateTag : String := "template"

/-- A component named as a template with a slot. -/
def isSlotTemplate (config : Config) (e : Element) : Bool :=
  config.isTemplateName e.name && Pruning.hasSlot config e

/-- The name of the tag of an element. -/
def tagName (config : Config) (e : Element) : String :=
  if e.dataType = some .component then
    if isSlotTemplate config e then templateTag else Name.tag e.name config.tagStart
  else config.containerTag

/-- The attribute of a property. -/
def propertyAttribute (config : Config) (tag key : String) (value : PropertyValue) : Attribute :=
  match value with
  | .flag b => { key, value := PropertyValue.flagWord b, isBoolean := true }
  | .text s => { key, value := s, isSlot := tag == templateTag && key == config.slotKey }

/-- The properties of an element with its variants laid over them. -/
def attributeValues (e : Element) : Mapping PropertyValue :=
  (e.properties.getD .empty).overlay (e.variants.getD .empty)

/-- The attributes of a component. -/
def attributes (config : Config) (e : Element) (tag : String) : List Attribute :=
  (attributeValues e).entries.map fun entry => propertyAttribute config tag entry.1 entry.2

/-- The tag of an element. -/
def tagOf (config : Config) (e : Element) : Tag :=
  if e.dataType = some .text then { name := none, text := some (e.text.getD "") }
  else
    let name := tagName config e
    let attributes :=
      if e.dataType = some .component then attributes config e name
      else [{ key := "class", value := e.name }]
    { name := some name, attributes, text := e.text }

mutual

/-- The markup of an element with its descendants; what a bare text holds is not shown. -/
def ofElement (config : Config) : Tree Element → Tree Tag
  | .node e children =>
    .node (tagOf config e) (if e.dataType = some .text then [] else ofElements config children)

def ofElements (config : Config) : List (Tree Element) → List (Tree Tag)
  | [] => []
  | t :: ts => ofElement config t :: ofElements config ts

end

theorem ofElements_eq_map (config : Config) (forest : List (Tree Element)) :
    ofElements config forest = forest.map (ofElement config) := by
  induction forest with
  | nil => rfl
  | cons t ts ih => simp [ofElements, ih]

end LayerMarkup.Markup
