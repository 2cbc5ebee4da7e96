import LayerMarkup.Markup.OfElements
import LayerMarkup.Proofs.Mapping

/-!
# Slots in markup

A template component names the slot that it fills by one of its properties.  Its tag bears the mark
of a slot exactly if this property is the name of the slot as a text (`fillsSlot_tagOf_iff`).
-/

namespace LayerMarkup

/-- The tag is a template with the mark of a slot. -/
structure Tag.FillsSlot (slot : String) (tag : Tag) : Prop where
  name : tag.name = some Markup.templateTag
  mark : ∃ a ∈ tag.attributes, a.isSlot = true ∧ a.render = "#" ++ slot

namespace Markup

variable {config : Config} {e : Element} {slot : String}

theorem value_ofElement (config : Config) (t : Tree Element) :
    (ofElement config t).value = tagOf config t.value := by
  cases t
  rfl

theorem attributeValues_of_no_variants {properties : Mapping PropertyValue}
    (hproperties : e.properties = some properties) (hvariants : e.variants = none) :
    attributeValues e = properties := by
  rw [attributeValues, hproperties, hvariants]
  rfl

theorem name_tagOf (htype : e.dataType = some .component) :
    (tagOf config e).name = some (tagName config e) := by
  simp [tagOf, htype]

theorem attributes_tagOf (htype : e.dataType = some .component) :
    (tagOf config e).attributes = attributes config e (tagName config e) := by
  simp [tagOf, htype]

/-- The only attributes that mark a slot are those of texts under the key of slots in a template. -/
theorem isSlot_propertyAttribute_iff {tag key : String} {value : PropertyValue} :
    (propertyAttribute config tag key value).isSlot = true ↔
      tag = templateTag ∧ key = config.slotKey ∧ ∃ slot, value = .text slot := by
  cases value <;> simp [propertyAttribute]

theorem propertyAttribute_isSlot {tag key : String} {value : PropertyValue}
    (hslot : (propertyAttribute config tag key value).isSlot = true)
    (hmark : (propertyAttribute config tag key value).render = "#" ++ slot) :
    key = config.slotKey ∧ value = .text slot := by
  obtain ⟨-, hkey, s, rfl⟩ := isSlot_propertyAttribute_iff.mp hslot
  rw [Attribute.render, if_pos hslot] at hmark
  have hname : s = slot := (String.append_right_inj _).mp hmark
  exact ⟨hkey, congrArg _ hname⟩

/-- A template component fills the slot that its properties name by a text. -/
theorem fillsSlot_tagOf_iff {properties : Mapping PropertyValue}
    (htype : e.dataType = some .component) (hname : config.isTemplateName e.name = true)
    (hproperties : e.properties = some properties) (hvariants : e.variants = none)
    (hslot : slot ≠ "") :
    (tagOf config e).FillsSlot slot ↔ properties.get? config.slotKey = some (.text slot) := by
  have hattributes : (tagOf config e).attributes = properties.entries.map
      fun entry => propertyAttribute config (tagName config e) entry.1 entry.2 := by
    rw [attributes_tagOf htype, attributes, attributeValues_of_no_variants hproperties hvariants]
  rw [Mapping.get?_eq_some_iff]
  constructor
  · rintro ⟨-, a, ha, hmarks, hwritten⟩
    rw [hattributes, List.mem_map] at ha
    obtain ⟨⟨key, value⟩, hentry, rfl⟩ := ha
    obtain ⟨rfl, rfl⟩ := propertyAttribute_isSlot hmarks hwritten
    exact hentry
  · intro hentry
    have hhas : Pruning.hasSlot config e = true := by
      rw [Pruning.hasSlot, hproperties, Option.bind_some, Mapping.get?_eq_some_iff.mpr hentry]
      simpa [PropertyValue.isNonEmptyText] using hslot
    have htemplate : tagName config e = templateTag := by
      simp [tagName, htype, isSlotTemplate, hname, hhas]
    let mark := propertyAttribute config (tagName config e) config.slotKey (.text slot)
    have hmarks : mark.isSlot = true := by simp [mark, propertyAttribute, htemplate]
    have hmark : mark ∈ (tagOf config e).attributes :=
      hattributes ▸ List.mem_map.mpr ⟨_, hentry, rfl⟩
    refine ⟨(name_tagOf htype).trans (congrArg some htemplate), mark, hmark, hmarks, ?_⟩
    rw [Attribute.render, if_pos hmarks]
    rfl

end Markup

end LayerMarkup
