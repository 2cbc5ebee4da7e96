import LayerMarkup.Proofs.Markup.Attributes
import LayerMarkup.Proofs.Name.Letters

/-!
# Marks of slots

The mark of a slot is put where the tag reads as that of a template.  A component has such a tag if
it is a template that fills a slot (`Element.FillsSlot`), and in one case more: where the start of
tags is itself the name of templates, a component without letters and digits in its name has the
bare start as its tag (`Name.tag_eq_iff_of_small`).  So templates that fill a slot bear its mark,
and with any other start of tags nothing else bears one (`marksSlots_ofElements`).
-/

namespace LayerMarkup

open LayerMarkup.Tree

variable {config : Config} {e : Element}

/-- A template component, whose properties name the slot that it fills. -/
structure Element.FillsSlot (config : Config) (e : Element) (slot : String) : Prop where
  component : e.dataType = some .component
  template : config.isTemplateName e.name = true
  named : e.ownValues.get? config.slotKey = some (.text slot)
  slot_ne : slot ≠ ""

/-- A component without letters and digits in its name, where the start of tags is the name of
templates. -/
structure Element.IsBareTemplate (config : Config) (e : Element) : Prop where
  component : e.dataType = some .component
  start : config.tagStart = Markup.templateTag
  nameless : ∀ c ∈ e.name.toList, Name.isTagChar c = false

namespace Markup

theorem hasSlot_iff : Pruning.hasSlot config e = true ↔
    ∃ slot, e.ownValues.get? config.slotKey = some (.text slot) ∧ slot ≠ "" := by
  have hfound : e.properties.bind (·.get? config.slotKey) = e.ownValues.get? config.slotKey := by
    rw [Element.ownValues]
    cases e.properties <;> rfl
  rw [Pruning.hasSlot, hfound]
  cases e.ownValues.get? config.slotKey with
  | none => simp
  | some value => cases value <;> simp [PropertyValue.isNonEmptyText]

theorem isSlotTemplate_iff (htype : e.dataType = some .component) :
    isSlotTemplate config e = true ↔ ∃ slot, e.FillsSlot config slot := by
  rw [isSlotTemplate, Bool.and_eq_true, hasSlot_iff]
  constructor
  · rintro ⟨hname, slot, hnamed, hslot⟩
    exact ⟨slot, htype, hname, hnamed, hslot⟩
  · rintro ⟨slot, hfills⟩
    exact ⟨hfills.template, slot, hfills.named, hfills.slot_ne⟩

/-- A component whose tag is that of a template: it fills a slot, or has nothing but the start of
tags. -/
def HasTemplateTag (config : Config) (e : Element) : Prop :=
  (∃ slot, e.FillsSlot config slot) ∨ e.IsBareTemplate config

theorem HasTemplateTag.component (htemplate : HasTemplateTag config e) :
    e.dataType = some .component := by
  rcases htemplate with ⟨slot, hfills⟩ | hbare
  · exact hfills.component
  · exact hbare.component

theorem tagName_eq_templateTag_iff (htype : e.dataType = some .component) :
    tagName config e = templateTag ↔ HasTemplateTag config e := by
  have hbare : Name.tag e.name config.tagStart = templateTag ↔ e.IsBareTemplate config := by
    rw [Name.tag_eq_iff_of_small (by decide) (by decide)]
    constructor
    · rintro ⟨hstart, hnameless⟩
      exact ⟨htype, hstart, hnameless⟩
    · rintro ⟨-, hstart, hnameless⟩
      exact ⟨hstart, hnameless⟩
  rw [HasTemplateTag, ← isSlotTemplate_iff htype, ← hbare, tagName, if_pos htype]
  split <;> simp_all

/-- The mark of a slot that a template shows: the text under the slot key. -/
def slotMark? (config : Config) (e : Element) : Option Attribute :=
  match (attributeValues e).get? config.slotKey with
  | some (.text slot) => some { key := config.slotKey, value := slot, isSlot := true }
  | _ => none

/-- A template has the mark of the slot that it shows, and no other. -/
theorem filter_isSlot_attributes (config : Config) (e : Element) :
    (attributes config e templateTag).filter (·.isSlot) = (slotMark? config e).toList := by
  have hsplit : (attributeValues e).entries.filter (fun entry =>
      (propertyAttribute config templateTag entry.1 entry.2).isSlot) =
        ((attributeValues e).entries.filter (·.1 = config.slotKey)).filter fun entry =>
          (propertyAttribute config templateTag config.slotKey entry.2).isSlot := by
    rw [List.filter_filter]
    refine List.filter_congr fun entry _ => ?_
    rw [Bool.eq_iff_iff, Bool.and_eq_true, isSlot_propertyAttribute_iff, isSlot_propertyAttribute_iff,
      decide_eq_true_eq]
    tauto
  rw [attributes, List.filter_map, Function.comp_def, hsplit, Mapping.filter_key_entries, slotMark?]
  cases (attributeValues e).get? config.slotKey with
  | none => rfl
  | some value => cases value <;> simp [propertyAttribute]

theorem slotMark?_eq_some_iff {a : Attribute} : slotMark? config e = some a ↔
    ∃ slot, (attributeValues e).get? config.slotKey = some (.text slot) ∧
      { key := config.slotKey, value := slot, isSlot := true } = a := by
  rw [slotMark?]
  split <;> simp_all

theorem filter_isSlot_tagOf (htemplate : HasTemplateTag config e) :
    (tagOf config e).attributes.filter (·.isSlot) = (slotMark? config e).toList := by
  have htype := htemplate.component
  rw [attributes_tagOf htype, (tagName_eq_templateTag_iff htype).mpr htemplate,
    filter_isSlot_attributes]

/-- Without the tag of a template nothing is marked. -/
theorem isSlot_of_mem_tagOf (hother : ¬ HasTemplateTag config e) :
    ∀ a ∈ (tagOf config e).attributes, a.isSlot = false := by
  by_cases htype : e.dataType = some .component
  · intro a ha
    rw [attributes_tagOf htype] at ha
    obtain ⟨entry, -, rfl⟩ := List.mem_map.mp ha
    rw [Bool.eq_false_iff, Ne, isSlot_propertyAttribute_iff, tagName_eq_templateTag_iff htype]
    exact fun hslot => hother hslot.1
  · simp only [tagOf, if_neg htype]
    split <;> simp

/-- What marks of slots the tag of an element bears. -/
structure MarksSlots (config : Config) (e : Element) (tag : Tag) : Prop where
  /-- A tag is marked for a template that fills a slot, or for a component that has the tag of one,
  as long as the value shown under the slot key is a text. -/
  marked_iff : (∃ a ∈ tag.attributes, a.isSlot = true) ↔
    HasTemplateTag config e ∧ ∃ slot, (attributeValues e).get? config.slotKey = some (.text slot)
  /-- A template that fills a slot has the mark of this slot and no other, unless its variants say
  otherwise. -/
  fills : ∀ slot, e.FillsSlot config slot → tag.name = some templateTag ∧
    (e.variantValues.get? config.slotKey = none →
      tag.attributes.filter (·.isSlot) = [{ key := config.slotKey, value := slot, isSlot := true }])

theorem marked_tagOf_iff (config : Config) (e : Element) :
    (∃ a ∈ (tagOf config e).attributes, a.isSlot = true) ↔
      HasTemplateTag config e ∧
        ∃ slot, (attributeValues e).get? config.slotKey = some (.text slot) := by
  by_cases htemplate : HasTemplateTag config e
  · have hmarked : (∃ a ∈ (tagOf config e).attributes, a.isSlot = true) ↔
        ∃ a, slotMark? config e = some a := by
      simp only [← List.mem_filter, filter_isSlot_tagOf htemplate, Option.mem_toList]
    rw [hmarked]
    simp [slotMark?_eq_some_iff, htemplate]
  · have hnone := isSlot_of_mem_tagOf htemplate
    constructor
    · rintro ⟨a, ha, hslot⟩
      rw [hnone a ha] at hslot
      cases hslot
    · exact fun hmarked => absurd hmarked.1 htemplate

theorem marksSlots_tagOf (config : Config) (e : Element) : MarksSlots config e (tagOf config e) where
  marked_iff := marked_tagOf_iff config e
  fills slot hfills := by
    have htype := hfills.component
    have htemplate : HasTemplateTag config e := .inl ⟨slot, hfills⟩
    have htag : tagName config e = templateTag := (tagName_eq_templateTag_iff htype).mpr htemplate
    refine ⟨(name_tagOf htype).trans (congrArg some htag), fun hvariants => ?_⟩
    have hshown : (attributeValues e).get? config.slotKey = some (.text slot) := by
      rw [get?_attributeValues, hvariants, Option.none_or, hfills.named]
    rw [filter_isSlot_tagOf htemplate, slotMark?_eq_some_iff.mpr ⟨slot, hshown, rfl⟩]
    rfl

/-- In the markup of any forest, a tag bears the mark of a slot for a template that fills a slot,
and else only for a component without letters and digits in its name where the start of tags is the
name of templates.  Every template that fills a slot has its tag, and exactly its mark if its
variants leave the slot alone. -/
theorem marksSlots_ofElements (config : Config) (forest : List (Tree Element)) :
    List.Forall₂ (Matches (MarksSlots config)) (shownElements forest) (ofElements config forest) :=
  forall₂_ofElements fun e _ => marksSlots_tagOf config e

/-- A component named by a question mark, with a value under the slot key. -/
def questionMark : Element :=
  { id := "1", name := "?", kind := .occurrence, dataType := some .component
    properties := some (.ofList [("slot", .text "x")]) }

/-- Where tags start with the name of templates, it bears the mark of a slot and is no template. -/
theorem marked_questionMark :
    let config : Config := { tagStart := "template" }
    (∃ t ∈ ofElements config [.node questionMark []], t.value.name = some templateTag ∧
      ∃ a ∈ t.value.attributes, a.isSlot = true) ∧ ¬ ∃ slot, questionMark.FillsSlot config slot := by
  intro config
  refine ⟨by decide +kernel, ?_⟩
  rintro ⟨slot, hfills⟩
  exact absurd hfills.template (by decide +kernel)

end Markup

end LayerMarkup
